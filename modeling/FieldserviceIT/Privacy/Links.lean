import FieldserviceIT.Privacy.Requests

/-!
What privacy calls can rely on whatever the others do: requests and artifacts stay with
their ids and expiry times, and what was verified or approved stays so. From it, a link
that is answered had not expired when the call started, and is answered once.
-/

namespace FieldserviceIT.Privacy

open Common Lib

section Rely

variable (key : String → String)

/-- The same request later. -/
structure SameRequest (row row' : PrivacyRequest) : Prop where
  id : row'.id = row.id
  verificationExpiresAt : row'.verificationExpiresAt = row.verificationExpiresAt
  identityVerifiedAt : row.identityVerifiedAt.isSome = true → row'.identityVerifiedAt.isSome = true
  deletionApprovedAt : row.deletionApprovedAt.isSome = true → row'.deletionApprovedAt.isSome = true

abbrev SameArtifact : PrivacyExportArtifact → PrivacyExportArtifact → Prop :=
  SameSecret PrivacyExportArtifact.id PrivacyExportArtifact.expiresAt

structure Onward (s s' : Office) : Prop where
  now : s.now ≤ s'.now
  requests : Carried SameRequest s.requests s'.requests
  artifacts : Carried SameArtifact s.artifacts s'.artifacts

def Cleared (id : String) (s : Office) : Prop :=
  ∃ row ∈ s.requests, key row.id = key id ∧ row.identityVerifiedAt.isSome = true ∧
    row.deletionApprovedAt.isSome = true

abbrev LinkInTime (rows : List PrivacyRequest) : Answer → Prop :=
  InTime PrivacyRequest.id PrivacyRequest.verificationExpiresAt rows

abbrev ExportInTime (rows : List PrivacyExportArtifact) : Answer → Prop :=
  InTime PrivacyExportArtifact.id PrivacyExportArtifact.expiresAt rows

def Checked (op : PrivacyOp) (s : Office) : Prop :=
  match op with
  | .answerLink answer => LinkInTime s.requests answer
  | .answerExport answer => ExportInTime s.artifacts answer
  | .insertJob _ requestId _ seen => seen.legalHoldAt = none ∧ Cleared key requestId s
  | _ => True

structure Kept (s : Office) : Prop where
  requests : Guarded key PrivacyRequest.id PrivacyRequest.verificationExpiresAt s.requests
    s.answeredLinks
  artifacts : Guarded key PrivacyExportArtifact.id PrivacyExportArtifact.expiresAt s.artifacts
    s.answeredExports

theorem SameRequest.refl (row : PrivacyRequest) : SameRequest row row :=
  ⟨rfl, rfl, fun h => h, fun h => h⟩

theorem SameRequest.trans {a b c : PrivacyRequest} (h : SameRequest a b) (h' : SameRequest b c) :
    SameRequest a c :=
  ⟨h'.id.trans h.id, h'.verificationExpiresAt.trans h.verificationExpiresAt,
    fun ha => h'.identityVerifiedAt (h.identityVerifiedAt ha),
    fun ha => h'.deletionApprovedAt (h.deletionApprovedAt ha)⟩

theorem SameRequest.secret {row row' : PrivacyRequest} (h : SameRequest row row') :
    SameSecret PrivacyRequest.id PrivacyRequest.verificationExpiresAt row row' :=
  ⟨h.id, h.verificationExpiresAt⟩

theorem Onward.refl (s : Office) : Onward s s :=
  ⟨Int.le_refl _, .refl SameRequest.refl _, .refl SameSecret.refl _⟩

theorem Onward.trans {s s' s'' : Office} (h : Onward s s') (h' : Onward s' s'') : Onward s s'' :=
  ⟨Int.le_trans h.now h'.now, .trans SameRequest.trans h.requests h'.requests,
    .trans SameSecret.trans h.artifacts h'.artifacts⟩

variable {key}

theorem Cleared.later {id : String} {s s' : Office} (h : Cleared key id s) (honward : Onward s s') :
    Cleared key id s' := by
  obtain ⟨row, hrow, hid, hidentity, happroved⟩ := h
  obtain ⟨row', hrow', hsame⟩ := honward.requests row hrow
  exact ⟨row', hrow', hsame.id ▸ hid, hsame.identityVerifiedAt hidentity,
    hsame.deletionApprovedAt happroved⟩

theorem sameRequest_verify (now : Int) (row : PrivacyRequest) : SameRequest row (row.verify now) :=
  ⟨rfl, rfl, fun _ => rfl, fun h => h⟩

theorem sameRequest_apply (dto : UpdatePrivacyRequestDto) (userId : String) (now : Int)
    (seen row : PrivacyRequest) : SameRequest row (dto.apply userId now seen row) := by
  refine ⟨rfl, rfl, fun h => ?_, fun h => ?_⟩
  · simp only [UpdatePrivacyRequestDto.apply]
    split
    · rfl
    · exact h
  · simp only [UpdatePrivacyRequestDto.apply]
    split
    · rfl
    · exact h

theorem onward_exec (op : PrivacyOp) (s : Office) : Onward s (execPrivacy key op s) := by
  cases op with
  | insertRequest id companyId requestType verificationTokenHash =>
    simp only [execPrivacy]
    split
    · exact Onward.refl s
    · exact ⟨Int.le_refl _, .append SameRequest.refl _ _, .refl SameSecret.refl _⟩
  | verify id =>
    exact ⟨Int.le_refl _, .updateWhere SameRequest.refl fun row _ _ => sameRequest_verify s.now row,
      .refl SameSecret.refl _⟩
  | update id dto userId seen =>
    exact ⟨Int.le_refl _, .updateWhere SameRequest.refl fun row _ _ =>
      sameRequest_apply dto userId s.now seen row, .refl SameSecret.refl _⟩
  | insertArtifact id requestId tokenHash content =>
    simp only [execPrivacy]
    split
    · exact Onward.refl s
    · exact ⟨Int.le_refl _, .refl SameRequest.refl _, .append SameSecret.refl _ _⟩
  | download id =>
    exact ⟨Int.le_refl _, .refl SameRequest.refl _,
      .updateWhere SameSecret.refl fun row _ _ => ⟨rfl, rfl⟩⟩
  | _ => exact ⟨Int.le_refl _, .refl SameRequest.refl _, .refl SameSecret.refl _⟩

theorem kept_exec {op : PrivacyOp} {s : Office} (h : Kept key s) (hchecked : Checked key op s) :
    Kept key (execPrivacy key op s) := by
  cases op with
  | insertRequest id companyId requestType verificationTokenHash =>
    simp only [execPrivacy]
    split
    · exact h
    · next hfree =>
        rw [List.any_eq_true] at hfree
        exact ⟨h.requests.insert fun other hother heq =>
          hfree ⟨other, hother, decide_eq_true heq⟩, h.artifacts⟩
  | insertArtifact id requestId tokenHash content =>
    simp only [execPrivacy]
    split
    · exact h
    · next hfree =>
        rw [List.any_eq_true] at hfree
        exact ⟨h.requests, h.artifacts.insert fun other hother heq =>
          hfree ⟨other, hother, decide_eq_true heq⟩⟩
  | verify id =>
    exact ⟨h.requests.updateWhere fun row _ => (sameRequest_verify s.now row).secret, h.artifacts⟩
  | update id dto userId seen =>
    exact ⟨h.requests.updateWhere fun row _ =>
      (sameRequest_apply dto userId s.now seen row).secret, h.artifacts⟩
  | download id => exact ⟨h.requests, h.artifacts.updateWhere fun row _ => ⟨rfl, rfl⟩⟩
  | answerLink answer => exact ⟨h.requests.answer hchecked, h.artifacts⟩
  | answerExport answer => exact ⟨h.requests, h.artifacts.answer hchecked⟩
  | read | insertJob => exact ⟨h.requests, h.artifacts⟩

end Rely

section Safety

variable (H : Hashing) (key : String → String)

abbrev Safe (p : PrivacyProgram) (s : Office) : Prop :=
  p.Safe (privacySystem H key) (fun _ _ => True) (Kept key) Onward (Checked key) (fun _ => True) s

theorem safe_done (s : Office) : Safe H key .done s :=
  fun _ _ _ => trivial

theorem safe_fail (s : Office) : Safe H key .fail s :=
  fun _ _ _ => trivial

theorem safe_step {op : PrivacyOp} {next : Office → PrivacyProgram} {s : Office}
    (h : ∀ s', Onward s s' → Checked key op s' ∧ Safe H key (next s') (execPrivacy key op s')) :
    Safe H key (.step op next) s :=
  fun s' honward _ _ => h s' honward

theorem safe_last {op : PrivacyOp} {s : Office} (h : ∀ s', Onward s s' → Checked key op s') :
    Safe H key (.step op fun _ => .done) s :=
  safe_step H key fun s' honward => ⟨h s' honward, safe_done H key _⟩

theorem safe_verify (token : String) {startedAt : Int} {s : Office} (hstarted : startedAt = s.now) :
    Safe H key (verify H key token startedAt) s := by
  refine safe_step H key fun s₁ hread => ⟨trivial, ?_⟩
  split
  · exact safe_fail H key _
  · next request hfind =>
      have hfound := List.find?_some hfind
      simp only [verifiable, Bool.and_eq_true, decide_eq_true_eq] at hfound
      have htime : LinkInTime s₁.requests ⟨request.id, startedAt⟩ :=
        ⟨request, List.mem_of_find?_eq_some hfind, rfl,
          Int.lt_of_le_of_lt (hstarted ▸ hread.now) hfound.1.1.2⟩
      refine safe_step H key fun s₂ hverify => ⟨trivial, ?_⟩
      split
      · refine safe_last H key fun s₃ hanswer => ?_
        have honward := (hverify.trans (onward_exec _ _)).trans hanswer
        exact htime.carried (honward.requests.mono SameRequest.secret)
      · exact safe_fail H key _

theorem safe_downloadExport (token : String) {startedAt : Int} (opens : String → Bool) {s : Office}
    (hstarted : startedAt = s.now) : Safe H key (downloadExport H key token startedAt opens) s := by
  refine safe_step H key fun s₁ hread => ⟨trivial, ?_⟩
  split
  · exact safe_fail H key _
  · next artifact hfind =>
      have hfound := List.find?_some hfind
      simp only [Bool.and_eq_true, decide_eq_true_eq] at hfound
      have htime : ExportInTime s₁.artifacts ⟨artifact.id, startedAt⟩ :=
        ⟨artifact, List.mem_of_find?_eq_some hfind, rfl,
          Int.lt_of_le_of_lt (hstarted ▸ hread.now) hfound.1.2⟩
      refine safe_step H key fun s₂ hdownload => ⟨trivial, ?_⟩
      split
      · split
        · refine safe_last H key fun s₃ hanswer => ?_
          exact htime.carried ((hdownload.trans (onward_exec _ _)).trans hanswer).artifacts
        · exact safe_fail H key _
      · exact safe_fail H key _

theorem admits_deletion {dto : UpdatePrivacyRequestDto} {seen : PrivacyRequest}
    (hadmits : admits dto seen = true) (hdeletion : completesDeletion dto seen = true) :
    seen.legalHoldAt = none ∧ (dto.identityVerified || seen.identityVerifiedAt.isSome) = true ∧
      (dto.deletionApproved || seen.deletionApprovedAt.isSome) = true := by
  simp only [completesDeletion, completes, Bool.and_eq_true, decide_eq_true_eq] at hdeletion
  obtain ⟨⟨hstatus, -⟩, htype⟩ := hdeletion
  simp only [admits, hstatus, htype, decide_true, Bool.true_and, Bool.and_eq_true,
    Bool.not_eq_true', Bool.or_eq_false_iff] at hadmits
  obtain ⟨⟨⟨⟨hidentity, -⟩, -⟩, hhold, -⟩, happroved⟩ := hadmits
  refine ⟨by simpa using hhold, ?_, ?_⟩
  · cases hseen : seen.identityVerifiedAt with
    | none => simpa [hseen] using hidentity
    | some at_ => exact Bool.or_true _
  · cases hseen : seen.deletionApprovedAt with
    | none => simpa [hseen] using happroved
    | some at_ => exact Bool.or_true _

theorem cleared_update {id userId : String} {dto : UpdatePrivacyRequestDto} {seen : PrivacyRequest}
    {s : Office} (hadmits : admits dto seen = true) (hdeletion : completesDeletion dto seen = true)
    (hid : key seen.id = key id) (hrow : ∃ row ∈ s.requests, SameRequest seen row) :
    Cleared key id (execPrivacy key (.update id dto userId seen) s) := by
  obtain ⟨-, hidentity, happroved⟩ := admits_deletion hadmits hdeletion
  obtain ⟨row, hrow, hsame⟩ := hrow
  have hkey : key row.id = key id := hsame.id ▸ hid
  refine ⟨dto.apply userId s.now seen row, ?_, hkey, ?_, ?_⟩
  · refine mem_updateWhere.mpr ⟨row, hrow, ?_⟩
    rw [if_pos (decide_eq_true hkey)]
  · simp only [UpdatePrivacyRequestDto.apply]
    split
    · rfl
    · next hno =>
        simp only [hno, Bool.false_or] at hidentity
        exact hsame.identityVerifiedAt hidentity
  · simp only [UpdatePrivacyRequestDto.apply]
    split
    · rfl
    · next hno =>
        simp only [hno, Bool.false_or] at happroved
        exact hsame.deletionApprovedAt happroved

theorem key_of_findRequest {s : Office} {id : String} {user : CurrentUser} {row : PrivacyRequest}
    (h : findRequest key s id user = some row) : row ∈ s.requests ∧ key row.id = key id := by
  have hfound := List.find?_some h
  rw [Bool.and_eq_true, decide_eq_true_eq] at hfound
  exact ⟨List.mem_of_find?_eq_some h, hfound.1⟩

theorem safe_update (id : String) (dto : UpdatePrivacyRequestDto) (user : CurrentUser)
    (draws : Draws) (s : Office) : Safe H key (update key id dto user draws) s := by
  refine safe_step H key fun s₁ _ => ⟨trivial, ?_⟩
  split
  · exact safe_fail H key _
  · next existing hfind =>
      obtain ⟨hmem, hid⟩ := key_of_findRequest key hfind
      split
      · exact safe_fail H key _
      · next hadmits =>
          rw [Bool.not_eq_true', Bool.not_eq_false] at hadmits
          refine safe_step H key fun s₂ hupdate => ⟨trivial, ?_⟩
          split
          · exact safe_last H key fun _ _ => trivial
          · split
            · next hdeletion =>
                have hcleared := @cleared_update key id user.id dto existing s₂ hadmits hdeletion hid
                  (hupdate.requests existing hmem)
                exact safe_last H key fun s₃ hjob =>
                  ⟨(admits_deletion hadmits hdeletion).1, hcleared.later hjob⟩
            · exact safe_done H key _

theorem privacy_cooperation : Cooperation (privacySystem H key) (fun _ _ => True) (Kept key) Onward
    (Checked key) where
  refl := Onward.refl
  trans := Onward.trans
  exec hinv _ hchecked := ⟨kept_exec hinv hchecked, onward_exec _ _⟩
  tick {s} hinv := by
    refine ⟨⟨hinv.requests, hinv.artifacts⟩, ?_,
      .refl SameRequest.refl _, .refl SameSecret.refl _⟩
    have hlater : (s.now : Int) ≤ s.now + 1 := by omega
    exact hlater
  handler {call} {s} _ hsend := by
    cases call with
    | create id companyId requestType token => exact safe_last H key fun _ _ => trivial
    | verify token startedAt => exact safe_verify H key token hsend
    | update id dto user draws => exact safe_update H key id dto user draws s
    | downloadExport token startedAt opens => exact safe_downloadExport H key token opens hsend

end Safety

section Once

variable (H : Hashing) (key : String → String)

/-- Nothing was received yet. -/
structure Fresh (s : Office) : Prop where
  requests : s.requests = []
  artifacts : s.artifacts = []
  jobs : s.jobs = []
  verified : s.verified = []
  completed : s.completed = []
  answeredLinks : s.answeredLinks = []
  answeredExports : s.answeredExports = []

variable {key}

theorem Fresh.kept {s : Office} (h : Fresh s) : Kept key s := by
  refine ⟨?_, ?_⟩
  · rw [h.requests, h.answeredLinks]
    exact Guarded.nil
  · rw [h.artifacts, h.answeredExports]
    exact Guarded.nil

variable (key)

def isVerified (row : PrivacyRequest) : Bool :=
  row.verifiedAt.isSome

def isDownloaded (row : PrivacyExportArtifact) : Bool :=
  row.downloadedAt.isSome

def verifies (k : String) (op : PrivacyOp) (s : Office) : Nat :=
  match op with
  | .verify id => if key id = k && s.requests.any (unverified key id) then 1 else 0
  | _ => 0

def downloads (k : String) (op : PrivacyOp) (s : Office) : Nat :=
  match op with
  | .download id => if key id = k && s.artifacts.any (notDownloaded key id) then 1 else 0
  | _ => 0

variable {key} {k : String}

theorem unverified_iff {id : String} {row : PrivacyRequest} (h : unverified key id row = true) :
    key row.id = key id ∧ isVerified row = false := by
  rw [unverified, Bool.and_eq_true, decide_eq_true_eq, Option.isNone_iff_eq_none] at h
  exact ⟨h.1, congrArg Option.isSome h.2⟩

theorem notDownloaded_iff {id : String} {row : PrivacyExportArtifact}
    (h : notDownloaded key id row = true) : key row.id = key id ∧ isDownloaded row = false := by
  rw [notDownloaded, Bool.and_eq_true, decide_eq_true_eq, Option.isNone_iff_eq_none] at h
  exact ⟨h.1, congrArg Option.isSome h.2⟩

theorem verified_exec (op : PrivacyOp) (s : Office) :
    usedUp (fun row : PrivacyRequest => key row.id) isVerified k s.requests + verifies key k op s ≤
      usedUp (fun row => key row.id) isVerified k (execPrivacy key op s).requests := by
  cases op with
  | insertRequest id companyId requestType verificationTokenHash =>
    simp only [execPrivacy, verifies]
    split
    · exact Nat.le_refl _
    · exact usedUp_le_append _
  | insertArtifact id requestId tokenHash content =>
    simp only [execPrivacy, verifies]
    split <;> exact Nat.le_refl _
  | verify id =>
    exact usedUp_redeem (fun row _ => unverified_iff) (fun row _ => rfl) fun row _ _ => rfl
  | update id dto userId seen =>
    exact usedUp_le_updateWhere (fun row _ => rfl) fun row _ _ hrow => hrow
  | _ => exact Nat.le_refl _

theorem downloaded_exec (op : PrivacyOp) (s : Office) :
    usedUp (fun row : PrivacyExportArtifact => key row.id) isDownloaded k s.artifacts +
        downloads key k op s ≤
      usedUp (fun row => key row.id) isDownloaded k (execPrivacy key op s).artifacts := by
  cases op with
  | insertArtifact id requestId tokenHash content =>
    simp only [execPrivacy, downloads]
    split
    · exact Nat.le_refl _
    · exact usedUp_le_append _
  | insertRequest id companyId requestType verificationTokenHash =>
    simp only [execPrivacy, downloads]
    split <;> exact Nat.le_refl _
  | download id =>
    exact usedUp_redeem (fun row _ => notDownloaded_iff) (fun row _ => rfl) fun row _ _ => rfl
  | _ => exact Nat.le_refl _

variable (key)

def Belongs (call : PrivacyCall) (op : PrivacyOp) : Prop :=
  match call, op with
  | _, .read => True
  | .create _ _ _ _, .insertRequest _ _ _ _ => True
  | .verify _ _, .verify _ | .verify _ _, .answerLink _ => True
  | .update _ _ _ _, .update _ _ _ _ | .update _ _ _ _, .insertArtifact _ _ _ _
  | .update _ _ _ _, .insertJob _ _ _ _ => True
  | .downloadExport _ _ _, .download _ | .downloadExport _ _ _, .answerExport _ => True
  | _, _ => False

theorem all_handler (call : PrivacyCall) : (call.handler H key).All (Belongs call) := by
  cases call with
  | create id companyId requestType token => exact Prog.all_step trivial fun _ => trivial
  | verify token startedAt =>
    refine Prog.all_step trivial fun s => ?_
    split
    · trivial
    · refine Prog.all_step trivial fun s' => ?_
      split
      · exact Prog.all_step trivial fun _ => trivial
      · trivial
  | update id dto user draws =>
    refine Prog.all_step trivial fun s => ?_
    split
    · trivial
    · split
      · trivial
      · refine Prog.all_step trivial fun s' => ?_
        split
        · exact Prog.all_step trivial fun _ => trivial
        · split
          · exact Prog.all_step trivial fun _ => trivial
          · trivial
  | downloadExport token startedAt opens =>
    refine Prog.all_step trivial fun s => ?_
    split
    · trivial
    · refine Prog.all_step trivial fun s' => ?_
      split
      · split
        · exact Prog.all_step trivial fun _ => trivial
        · trivial
      · trivial

def linksOf : PrivacyOp → List Answer
  | .answerLink answer => [answer]
  | _ => []

def exportsOf : PrivacyOp → List Answer
  | .answerExport answer => [answer]
  | _ => []

theorem answeredLinks_exec (op : PrivacyOp) (s : Office) :
    (execPrivacy key op s).answeredLinks = s.answeredLinks ++ linksOf op := by
  cases op with
  | insertRequest | insertArtifact =>
    simp only [execPrivacy, linksOf, List.append_nil]
    split <;> rfl
  | answerLink answer => rfl
  | _ => exact (List.append_nil _).symm

theorem answeredExports_exec (op : PrivacyOp) (s : Office) :
    (execPrivacy key op s).answeredExports = s.answeredExports ++ exportsOf op := by
  cases op with
  | insertRequest | insertArtifact =>
    simp only [execPrivacy, exportsOf, List.append_nil]
    split <;> rfl
  | answerExport answer => rfl
  | _ => exact (List.append_nil _).symm

def linkAnswers (k : String) (s : Office) : Nat :=
  answersTo key k s.answeredLinks

def exportAnswers (k : String) (s : Office) : Nat :=
  answersTo key k s.answeredExports

theorem linkAnswers_exec (k : String) (op : PrivacyOp) (s : Office) :
    linkAnswers key k (execPrivacy key op s) ≤ linkAnswers key k s + answersTo key k (linksOf op) := by
  rw [linkAnswers, answeredLinks_exec, answersTo_append]
  exact Nat.le_refl _

theorem exportAnswers_exec (k : String) (op : PrivacyOp) (s : Office) :
    exportAnswers key k (execPrivacy key op s) ≤
      exportAnswers key k s + answersTo key k (exportsOf op) := by
  rw [exportAnswers, answeredExports_exec, answersTo_append]
  exact Nat.le_refl _

theorem affords_links (k : String) (call : PrivacyCall) :
    (call.handler H key).Affords (verifies key k) (fun op => answersTo key k (linksOf op)) 0 := by
  cases call with
  | verify token startedAt =>
    refine Prog.affords_step (Nat.zero_le _) fun s => ?_
    split
    · trivial
    · next request _ =>
        refine Prog.affords_step (Nat.zero_le _) fun s' => ?_
        split
        · next hany =>
            refine Prog.affords_step ?_ fun _ => trivial
            simp [verifies, hany, linksOf, answersTo, List.countP_cons]
        · trivial
  | create id companyId requestType token =>
    refine Prog.affords_of_all ((all_handler H key _).mono fun op hop => ?_) 0
    cases op <;> first | rfl | cases hop
  | update id dto user draws =>
    refine Prog.affords_of_all ((all_handler H key _).mono fun op hop => ?_) 0
    cases op <;> first | rfl | cases hop
  | downloadExport token startedAt opens =>
    refine Prog.affords_of_all ((all_handler H key _).mono fun op hop => ?_) 0
    cases op <;> first | rfl | cases hop

theorem affords_exports (k : String) (call : PrivacyCall) :
    (call.handler H key).Affords (downloads key k) (fun op => answersTo key k (exportsOf op)) 0 := by
  cases call with
  | downloadExport token startedAt opens =>
    refine Prog.affords_step (Nat.zero_le _) fun s => ?_
    split
    · trivial
    · next artifact _ =>
        refine Prog.affords_step (Nat.zero_le _) fun s' => ?_
        split
        · next hany =>
            split
            · refine Prog.affords_step ?_ fun _ => trivial
              simp [downloads, hany, exportsOf, answersTo, List.countP_cons]
            · trivial
        · trivial
  | create id companyId requestType token =>
    refine Prog.affords_of_all ((all_handler H key _).mono fun op hop => ?_) 0
    cases op <;> first | rfl | cases hop
  | verify token startedAt =>
    refine Prog.affords_of_all ((all_handler H key _).mono fun op hop => ?_) 0
    cases op <;> first | rfl | cases hop
  | update id dto user draws =>
    refine Prog.affords_of_all ((all_handler H key _).mono fun op hop => ?_) 0
    cases op <;> first | rfl | cases hop

theorem privacy_links_once {c₀ c : Config Office PrivacyOp} (hfresh : Fresh c₀.shared)
    (hidle : c₀.threads = []) (hrun : (privacySystem H key).Run (fun _ _ => True) c₀ c) :
    OnceOnly key PrivacyRequest.id PrivacyRequest.verificationExpiresAt c.shared.requests
        c.shared.answeredLinks ∧
      OnceOnly key PrivacyExportArtifact.id PrivacyExportArtifact.expiresAt c.shared.artifacts
        c.shared.answeredExports := by
  have hkept := ((privacy_cooperation H key).run hrun
    (Config.safe_of_idle hfresh.kept hidle)).1.inv
  refine ⟨⟨fun row _ => ?_, hkept.requests.inTime⟩, ⟨fun row _ => ?_, hkept.artifacts.inTime⟩⟩
  · refine System.answered_le_one (fun op s _ => verified_exec op s)
      (fun op s _ => linkAnswers_exec key (key row.id) op s) (fun s => ⟨rfl, rfl⟩)
      (fun s call _ => affords_links H key _ call) hidle hrun ?_ hkept.requests.distinct
    rw [linkAnswers, hfresh.answeredLinks]
    rfl
  · refine System.answered_le_one (fun op s _ => downloaded_exec op s)
      (fun op s _ => exportAnswers_exec key (key row.id) op s) (fun s => ⟨rfl, rfl⟩)
      (fun s call _ => affords_exports H key _ call) hidle hrun ?_ hkept.artifacts.distinct
    rw [exportAnswers, hfresh.answeredExports]
    rfl

end Once
end FieldserviceIT.Privacy
