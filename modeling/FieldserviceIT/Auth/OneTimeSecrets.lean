import FieldserviceIT.Auth.LoginCodes
import FieldserviceIT.Auth.Passkeys
import FieldserviceIT.Privacy.Deletions

/-!
The four kinds of one-time secrets together: verification links, export links, login
codes and passkey challenges.
-/

namespace FieldserviceIT.Auth

open Common Lib Privacy

/-- In every run each secret of the four kinds is presented with success at most once,
and never by a call that had started when the secret was expired. -/
theorem one_time_secrets_once (H : Hashing) (key : String → String) :
    (∀ c₀ c : Config Office PrivacyOp, Fresh c₀.shared → c₀.threads = [] →
      (privacySystem H key).Run (fun _ _ => True) c₀ c →
        OnceOnly key PrivacyRequest.id PrivacyRequest.verificationExpiresAt c.shared.requests
          c.shared.answeredLinks ∧
        OnceOnly key PrivacyExportArtifact.id PrivacyExportArtifact.expiresAt c.shared.artifacts
          c.shared.answeredExports) ∧
    (∀ c₀ c : Config Sso.Logins Sso.LoginOp, c₀.shared.codes = [] → c₀.shared.answered = [] →
      c₀.threads = [] → (Sso.loginSystem H key).Run (fun _ _ => True) c₀ c →
        OnceOnly key Sso.OidcLoginCode.id Sso.OidcLoginCode.expiresAt c.shared.codes
          c.shared.answered) ∧
    ∀ c₀ c : Config Passkeys.PasskeyStore Passkeys.PasskeyOp, c₀.shared.challenges = [] →
      c₀.shared.answered = [] → c₀.threads = [] →
      (Passkeys.passkeySystem key).Run (fun _ _ => True) c₀ c →
        OnceOnly key Passkeys.WebAuthnChallenge.id Passkeys.WebAuthnChallenge.expiresAt
          c.shared.challenges c.shared.answered := by
  refine ⟨fun c₀ c hfresh hidle hrun => ?_, fun c₀ c hcodes hanswered hidle hrun => ?_,
    fun c₀ c hchallenges hanswered hidle hrun => ?_⟩
  · exact privacy_links_once H key hfresh hidle hrun
  · exact Sso.login_codes_once hcodes hanswered hidle hrun
  · exact Passkeys.challenges_once hchallenges hanswered hidle hrun

section Samples

def sampleLogins : Sso.Logins where
  codes := []
  users := [⟨"user-1", true⟩]
  now := 1700000000000
  answered := []

def samplePasskeys : Passkeys.PasskeyStore where
  challenges := []
  credentials := [⟨"row-1", "user-1", "credential-1", "key", 3, "laptop", none⟩]
  users := [⟨"user-1", true⟩]
  now := 1700000000000
  answered := []

def exportDraws : Draws where
  artifactId := "artifact-1"
  exportTokenHash := "sha256:ba7816bf8f01cfea414140de5dae2223b00361a396177a9cb410ff61f20015ad"
  exportContent := "sealed"
  jobId := "job-1"

def startsLogin (s : Sso.Logins) : Sso.LoginCall → Bool
  | .consumeLoginCode _ startedAt => startedAt = s.now
  | _ => true

def startsPasskey (s : Passkeys.PasskeyStore) : Passkeys.PasskeyCall → Bool
  | .verifyRegistration _ _ _ _ startedAt _ | .verifyAuthentication _ _ startedAt _ =>
    startedAt = s.now
  | _ => true

theorem startsNow_of_startsLogin {s : Sso.Logins} {call : Sso.LoginCall}
    (h : startsLogin s call = true) : call.startsNow s := by
  cases call with
  | consumeLoginCode code startedAt =>
    have heq : startedAt = s.now := of_decide_eq_true h
    exact heq
  | _ => trivial

theorem startsNow_of_startsPasskey {s : Passkeys.PasskeyStore} {call : Passkeys.PasskeyCall}
    (h : startsPasskey s call = true) : call.startsNow s := by
  cases call with
  | verifyRegistration _ _ _ _ startedAt _ =>
    have heq : startedAt = s.now := of_decide_eq_true h
    exact heq
  | verifyAuthentication _ _ startedAt _ =>
    have heq : startedAt = s.now := of_decide_eq_true h
    exact heq
  | _ => trivial

/-- Each kind is presented twice at the same time, and answered once. -/
theorem one_time_secrets_once_presented_twice :
    (∃ c : Config Office PrivacyOp,
      c.shared.answeredLinks = [⟨"request-1", 1700000000000⟩] ∧
      c.shared.answeredExports = [⟨"artifact-1", 1700000000000⟩] ∧
      OnceOnly id PrivacyRequest.id PrivacyRequest.verificationExpiresAt c.shared.requests
        c.shared.answeredLinks ∧
      OnceOnly id PrivacyExportArtifact.id PrivacyExportArtifact.expiresAt c.shared.artifacts
        c.shared.answeredExports) ∧
    (∃ c : Config Sso.Logins Sso.LoginOp,
      c.shared.answered = [⟨"code-1", 1700000000000⟩] ∧
      OnceOnly id Sso.OidcLoginCode.id Sso.OidcLoginCode.expiresAt c.shared.codes
        c.shared.answered) ∧
    ∃ c : Config Passkeys.PasskeyStore Passkeys.PasskeyOp,
      c.shared.answered = [⟨"challenge-1", 1700000000000⟩] ∧
      OnceOnly id Passkeys.WebAuthnChallenge.id Passkeys.WebAuthnChallenge.expiresAt
        c.shared.challenges c.shared.answered := by
  have hprivacy : ((privacySystem CredentialLookup.sampleHashing id).play startsAt
      (fun _ _ => true) ⟨sampleOffice, []⟩
      [.start (.create "request-1" none .access "abc"), .run 0, .start sampleVerify,
        .start sampleVerify, .run 1, .run 2, .run 2, .run 1, .run 2,
        .start (.update "request-1" (sampleDto .completed) sampleOfficer exportDraws), .run 3,
        .run 3, .run 3, .start (.downloadExport "abc" 1700000000000 fun _ => true),
        .start (.downloadExport "abc" 1700000000000 fun _ => true), .run 4, .run 5, .run 5, .run 4,
        .run 5]).any (fun c =>
        decide (c.shared.answeredLinks = [⟨"request-1", 1700000000000⟩]) &&
          decide (c.shared.answeredExports = [⟨"artifact-1", 1700000000000⟩])) = true := by
    decide
  have hlogin : ((Sso.loginSystem CredentialLookup.sampleHashing id).play startsLogin
      (fun _ _ => true) ⟨sampleLogins, []⟩
      [.start (.callback "code-1" "abc" "user-1"), .run 0,
        .start (.consumeLoginCode "abc" 1700000000000),
        .start (.consumeLoginCode "abc" 1700000000000), .run 1, .run 2, .run 1, .run 2,
        .run 1]).any (fun c =>
        decide (c.shared.answered = [⟨"code-1", 1700000000000⟩])) = true := by
    decide
  have hpasskey : ((Passkeys.passkeySystem id).play startsPasskey (fun _ _ => true)
      ⟨samplePasskeys, []⟩
      [.start (.authenticationOptions "challenge-1" "nonce"), .run 0,
        .start (.verifyAuthentication "challenge-1" "credential-1" 1700000000000
          fun _ record => some (record.counter + 1)),
        .start (.verifyAuthentication "challenge-1" "credential-1" 1700000000000
          fun _ record => some (record.counter + 1)), .run 1, .run 2, .run 1, .run 2, .run 1,
        .run 2, .run 1, .run 1]).any (fun c =>
        decide (c.shared.answered = [⟨"challenge-1", 1700000000000⟩])) = true := by
    decide
  refine ⟨?_, ?_, ?_⟩
  · obtain ⟨c, hrun, hcheck⟩ :=
      System.exists_run_of_play (fun _ _ => startsNow_of_startsAt) (fun _ _ _ => trivial) hprivacy
    simp only [Bool.and_eq_true, decide_eq_true_eq] at hcheck
    exact ⟨c, hcheck.1, hcheck.2,
      (one_time_secrets_once CredentialLookup.sampleHashing id).1 _ c fresh_sampleOffice rfl hrun⟩
  · obtain ⟨c, hrun, hcheck⟩ :=
      System.exists_run_of_play (fun _ _ => startsNow_of_startsLogin) (fun _ _ _ => trivial) hlogin
    exact ⟨c, of_decide_eq_true hcheck,
      (one_time_secrets_once CredentialLookup.sampleHashing id).2.1 _ c rfl rfl rfl hrun⟩
  · obtain ⟨c, hrun, hcheck⟩ := System.exists_run_of_play
      (fun _ _ => startsNow_of_startsPasskey) (fun _ _ _ => trivial) hpasskey
    exact ⟨c, of_decide_eq_true hcheck,
      (one_time_secrets_once CredentialLookup.sampleHashing id).2.2 _ c rfl rfl rfl hrun⟩

end Samples
end FieldserviceIT.Auth
