import FieldserviceIT.Privacy.Links

/-!
Deletion jobs and closed requests. The conditions of a deletion are checked on the row
an update has read, and its job is inserted two statements later; a verification looks
at the status only when it reads. Identity and approval are never taken back, so they
hold when the job comes; the rest holds where nobody has moved the request on.
-/

namespace FieldserviceIT.Privacy

open Common Lib

section Law

variable (key : String → String)

/-- The job was inserted for a request that was verified, approved and not held. -/
def Warranted (job : PrivacyActionJob) : Prop :=
  ∃ row, job.request = some row ∧ row.identityVerifiedAt.isSome = true ∧
    row.deletionApprovedAt.isSome = true ∧ row.legalHoldAt = none

structure Sound (s : Office) : Prop where
  once : ∀ row ∈ s.requests, s.jobs.countP (fun job => key job.requestId = key row.id) ≤ 1
  warranted : ∀ job ∈ s.jobs, Warranted job
  closed : ∀ entry ∈ s.verified, entry.2 ≠ .denied ∧ entry.2 ≠ .canceled

/-- A verification finds no request that was denied or canceled, a deletion is completed
where it has not been completed before, and its job finds the legal hold as it was read. -/
def undisturbed (op : PrivacyOp) (s : Office) : Bool :=
  match op with
  | .verify id => s.requests.all fun row =>
    !unverified key id row || row.status ≠ .denied && row.status ≠ .canceled
  | .update id dto _ seen => !completesDeletion dto seen || !s.completed.contains (key id)
  | .insertJob _ requestId _ seen => s.requests.all fun row =>
    key row.id ≠ key requestId || row.legalHoldAt = seen.legalHoldAt
  | _ => true

/-- What such statements keep. -/
structure Orderly (s : Office) : Prop where
  warranted : ∀ job ∈ s.jobs, Warranted job
  closed : ∀ entry ∈ s.verified, entry.2 ≠ .denied ∧ entry.2 ≠ .canceled
  completed : s.completed.Nodup

variable {key}

theorem Fresh.orderly {s : Office} (h : Fresh s) : Orderly s := by
  refine ⟨?_, ?_, ?_⟩
  · rw [h.jobs]
    simp
  · rw [h.verified]
    simp
  · rw [h.completed]
    exact List.nodup_nil

end Law

section Steps

variable {key : String → String} {s : Office}

theorem find_cleared {id : String} (hkept : Kept key s) (h : Cleared key id s) :
    ∃ row ∈ s.requests, (s.requests.find? fun row => key row.id = key id) = some row ∧
      key row.id = key id ∧ row.identityVerifiedAt.isSome = true ∧
      row.deletionApprovedAt.isSome = true := by
  obtain ⟨row, hrow, hid, hcleared⟩ := h
  cases hfind : s.requests.find? fun row => key row.id = key id with
  | none => exact absurd (decide_eq_true hid) (List.find?_eq_none.mp hfind row hrow)
  | some found =>
    have hmem := List.mem_of_find?_eq_some hfind
    have hfound := List.find?_some hfind
    obtain rfl := hkept.requests.distinct.eq_of_key hmem hrow ((of_decide_eq_true hfound).trans hid.symm)
    exact ⟨found, hmem, rfl, hid, hcleared⟩

theorem warranted_insertJob {id requestId userId : String} {seen : PrivacyRequest}
    (hkept : Kept key s) (hallowed : undisturbed key (.insertJob id requestId userId seen) s = true)
    (hchecked : Checked key (.insertJob id requestId userId seen) s) {job : PrivacyActionJob}
    (hjob : job.request = s.requests.find? fun row => key row.id = key requestId) :
    Warranted job := by
  obtain ⟨hseen, hcleared⟩ := hchecked
  obtain ⟨row, hrow, hfind, hid, hidentity, happroved⟩ := find_cleared hkept hcleared
  have hhold := List.all_eq_true.mp hallowed row hrow
  simp only [hid, ne_eq, not_true_eq_false, decide_false, Bool.false_or, decide_eq_true_eq]
    at hhold
  exact ⟨row, hjob.trans hfind, hidentity, happroved, hhold.trans hseen⟩

theorem closed_verify {id : String} (h : Orderly s)
    (hallowed : undisturbed key (.verify id) s = true) :
    ∀ entry ∈ (execPrivacy key (.verify id) s).verified,
      entry.2 ≠ .denied ∧ entry.2 ≠ .canceled := by
  intro entry hentry
  obtain hentry | hentry := List.mem_append.mp hentry
  · exact h.closed entry hentry
  · obtain ⟨row, hrow, rfl⟩ := List.mem_map.mp hentry
    obtain ⟨hrow, hopen⟩ := List.mem_filter.mp hrow
    have hstatus := List.all_eq_true.mp hallowed row hrow
    simpa [hopen] using hstatus

theorem completed_update {id userId : String} {dto : UpdatePrivacyRequestDto}
    {seen : PrivacyRequest} (h : Orderly s)
    (hallowed : undisturbed key (.update id dto userId seen) s = true) :
    (execPrivacy key (.update id dto userId seen) s).completed.Nodup := by
  simp only [execPrivacy]
  split
  · next hdeletion =>
      simp only [undisturbed, hdeletion, Bool.not_true, Bool.false_or, Bool.not_eq_true',
        List.contains_eq_mem, decide_eq_false_iff_not] at hallowed
      refine List.nodup_append.mpr ⟨h.completed, List.nodup_singleton _, ?_⟩
      intro a ha b hb hab
      exact hallowed (List.mem_singleton.mp hb ▸ hab ▸ ha)
  · exact h.completed

theorem orderly_exec {op : PrivacyOp} (hkept : Kept key s) (h : Orderly s)
    (hallowed : undisturbed key op s = true) (hchecked : Checked key op s) :
    Orderly (execPrivacy key op s) := by
  cases op with
  | insertRequest id companyId requestType verificationTokenHash =>
    simp only [execPrivacy]
    split
    · exact h
    · exact ⟨h.warranted, h.closed, h.completed⟩
  | insertArtifact id requestId tokenHash content =>
    simp only [execPrivacy]
    split
    · exact h
    · exact ⟨h.warranted, h.closed, h.completed⟩
  | verify id => exact ⟨h.warranted, closed_verify h hallowed, h.completed⟩
  | update id dto userId seen => exact ⟨h.warranted, h.closed, completed_update h hallowed⟩
  | insertJob id requestId userId seen =>
    refine ⟨fun job hjob => ?_, h.closed, h.completed⟩
    obtain hjob | hjob := List.mem_append.mp hjob
    · exact h.warranted job hjob
    · rw [List.mem_singleton.mp hjob]
      exact warranted_insertJob hkept hallowed hchecked rfl
  | _ => exact ⟨h.warranted, h.closed, h.completed⟩

end Steps

section Once

variable (key : String → String)

def earnsJob (k : String) (op : PrivacyOp) (_ : Office) : Nat :=
  match op with
  | .update id dto _ seen => if completesDeletion dto seen && key id = k then 1 else 0
  | _ => 0

def insertsJob (k : String) (op : PrivacyOp) : Nat :=
  match op with
  | .insertJob _ requestId _ _ => if key requestId = k then 1 else 0
  | _ => 0

def completionsOf (k : String) (s : Office) : Nat :=
  s.completed.count k

def jobsOf (k : String) (s : Office) : Nat :=
  s.jobs.countP fun job => key job.requestId = k

variable {key} {k : String}

theorem completions_exec (op : PrivacyOp) (s : Office) :
    completionsOf k s + earnsJob key k op s ≤ completionsOf k (execPrivacy key op s) := by
  cases op with
  | insertRequest | insertArtifact =>
    simp only [execPrivacy]
    split <;> exact Nat.le_refl _
  | update id dto userId seen =>
    simp only [execPrivacy, earnsJob, completionsOf]
    cases hdeletion : completesDeletion dto seen with
    | true => simp [List.count_append, List.count_singleton]
    | false => simp
  | _ => exact Nat.le_refl _

theorem jobs_exec (op : PrivacyOp) (s : Office) :
    jobsOf key k (execPrivacy key op s) ≤ jobsOf key k s + insertsJob key k op := by
  cases op with
  | insertRequest | insertArtifact =>
    simp only [execPrivacy]
    split <;> exact Nat.le_refl _
  | insertJob id requestId userId seen =>
    simp only [execPrivacy, jobsOf, insertsJob, List.countP_append, List.countP_cons,
      List.countP_nil, decide_eq_true_eq]
    omega
  | _ => exact Nat.le_refl _

variable (H : Hashing)

theorem affords_jobs (call : PrivacyCall) :
    (call.handler H key).Affords (earnsJob key k) (insertsJob key k) 0 := by
  cases call with
  | update id dto user draws =>
    refine Prog.affords_step (Nat.zero_le _) fun s => ?_
    split
    · trivial
    · next existing _ =>
        split
        · trivial
        · refine Prog.affords_step (Nat.zero_le _) fun s' => ?_
          split
          · exact Prog.affords_step (Nat.zero_le _) fun _ => trivial
          · split
            · next hdeletion =>
                refine Prog.affords_step ?_ fun _ => trivial
                simp [insertsJob, earnsJob, hdeletion]
            · trivial
  | create id companyId requestType token =>
    refine Prog.affords_of_all ((all_handler H key _).mono fun op hop => ?_) 0
    cases op <;> first | rfl | cases hop
  | verify token startedAt =>
    refine Prog.affords_of_all ((all_handler H key _).mono fun op hop => ?_) 0
    cases op <;> first | rfl | cases hop
  | downloadExport token startedAt opens =>
    refine Prog.affords_of_all ((all_handler H key _).mono fun op hop => ?_) 0
    cases op <;> first | rfl | cases hop

/-- In a run in which verifications find no closed request, no deletion is completed
twice and jobs find the hold as it was read, the workflow is sound. -/
theorem privacy_workflow_sound {c₀ c : Config Office PrivacyOp} (hfresh : Fresh c₀.shared)
    (hidle : c₀.threads = [])
    (hrun : (privacySystem H key).Run (fun op s => undisturbed key op s = true) c₀ c) :
    Sound key c.shared := by
  have hcooperation := (privacy_cooperation H key).mono
    (fun op s (_ : undisturbed key op s = true) => trivial)
  have horderly : Orderly c.shared :=
    hcooperation.keeps (fun op s hkept h hallowed hchecked => orderly_exec hkept h hallowed hchecked)
      (fun s h => ⟨h.warranted, h.closed, h.completed⟩) hrun
      (Config.safe_of_idle hfresh.kept hidle) hfresh.orderly
  refine ⟨fun row _ => ?_, horderly.warranted, horderly.closed⟩
  have hjobs : jobsOf key (key row.id) c.shared ≤ completionsOf (key row.id) c.shared := by
    refine System.spent_le_earned (fun op s _ => completions_exec op s)
      (fun op s _ => jobs_exec op s) (fun s => ⟨Nat.le_refl _, Nat.le_refl _⟩)
      (fun s call _ => affords_jobs H call) hidle hrun ?_
    simp [jobsOf, hfresh.jobs]
  exact Nat.le_trans hjobs (List.nodup_iff_count_le_one.mp horderly.completed _)

end Once
section Samples

def sampleOfficer : CurrentUser where
  id := "officer"
  role := .superAdmin
  userType := .businessUser
  companyId := none
  effectiveCompanyId := none
  location := none
  permissionScopes := none
  permissionSlugs := none

def sampleOffice : Office where
  requests := []
  artifacts := []
  jobs := []
  now := 1700000000000
  verified := []
  completed := []
  answeredLinks := []
  answeredExports := []

theorem fresh_sampleOffice : Fresh sampleOffice :=
  ⟨rfl, rfl, rfl, rfl, rfl, rfl, rfl⟩

def sampleDraws : Draws where
  artifactId := "artifact-1"
  exportTokenHash := "hash"
  exportContent := "sealed"
  jobId := "job-1"

def sampleDto (status : PrivacyStatus) : UpdatePrivacyRequestDto where
  status := status
  identityVerified := false
  resolutionNotes := some "as discussed"
  assignedToId := none
  legalHold := none
  legalHoldReason := none
  deletionApproved := true

def sampleCreate : PrivacyCall :=
  .create "request-1" none .deletion "abc"

def sampleVerify : PrivacyCall :=
  .verify "abc" 1700000000000

def sampleUpdate (status : PrivacyStatus) : PrivacyCall :=
  .update "request-1" (sampleDto status) sampleOfficer sampleDraws

def startsAt (s : Office) : PrivacyCall → Bool
  | .verify _ startedAt | .downloadExport _ startedAt _ => startedAt = s.now
  | _ => true

theorem startsNow_of_startsAt {s : Office} {call : PrivacyCall} (h : startsAt s call = true) :
    call.startsNow s := by
  cases call with
  | verify token startedAt =>
    have heq : startedAt = s.now := of_decide_eq_true h
    exact heq
  | downloadExport token startedAt opens =>
    have heq : startedAt = s.now := of_decide_eq_true h
    exact heq
  | create | update => trivial

/-- A request is verified, and its deletion approved and completed. -/
theorem privacy_workflow_sound_sample : ∃ c : Config Office PrivacyOp,
    c.shared.jobs.map (·.requestId) = ["request-1"] ∧ Sound id c.shared := by
  have hplay : ((privacySystem CredentialLookup.sampleHashing id).play startsAt (undisturbed id)
      ⟨sampleOffice, []⟩
      [.start sampleCreate, .run 0, .start sampleVerify, .run 1, .run 1, .run 1,
        .start (sampleUpdate .completed), .run 2, .run 2, .run 2]).any (fun c =>
        decide (c.shared.jobs.map (·.requestId) = ["request-1"])) = true := by
    decide
  obtain ⟨c, hrun, hcheck⟩ :=
    System.exists_run_of_play (fun _ _ => startsNow_of_startsAt) (fun _ _ h => h) hplay
  exact ⟨c, of_decide_eq_true hcheck,
    privacy_workflow_sound _ fresh_sampleOffice rfl hrun⟩

/-- Two updates complete the request they have both read open, and a link that was read
in time reopens a request that was denied meanwhile. -/
theorem deleted_twice_and_reopened :
    (∃ c : Config Office PrivacyOp,
      (privacySystem CredentialLookup.sampleHashing id).Run (fun _ _ => True) ⟨sampleOffice, []⟩ c ∧
        c.shared.jobs.map (·.requestId) = ["request-1", "request-1"] ∧ ¬ Sound id c.shared) ∧
    ∃ c : Config Office PrivacyOp,
      (privacySystem CredentialLookup.sampleHashing id).Run (fun _ _ => True) ⟨sampleOffice, []⟩ c ∧
        c.shared.verified = [("request-1", .denied)] ∧
        c.shared.requests.map (·.status) = [.received] ∧ ¬ Sound id c.shared := by
  have htwice : ((privacySystem CredentialLookup.sampleHashing id).play startsAt (fun _ _ => true)
      ⟨sampleOffice, []⟩
      [.start sampleCreate, .run 0, .start sampleVerify, .run 1, .run 1, .run 1,
        .start (sampleUpdate .completed), .start (sampleUpdate .completed), .run 2, .run 3, .run 2,
        .run 3, .run 2, .run 3]).any (fun c =>
        decide (c.shared.jobs.map (·.requestId) = ["request-1", "request-1"]) &&
          decide (c.shared.requests.map (·.id) = ["request-1"])) = true := by
    decide
  have hreopened : ((privacySystem CredentialLookup.sampleHashing id).play startsAt (fun _ _ => true)
      ⟨sampleOffice, []⟩
      [.start sampleCreate, .run 0, .start sampleVerify, .run 1, .start (sampleUpdate .denied),
        .run 2, .run 2, .run 1]).any (fun c =>
        decide (c.shared.verified = [("request-1", .denied)]) &&
          decide (c.shared.requests.map (·.status) = [.received])) = true := by
    decide
  constructor
  · obtain ⟨c, hrun, hcheck⟩ :=
      System.exists_run_of_play (fun _ _ => startsNow_of_startsAt) (fun _ _ _ => trivial) htwice
    simp only [Bool.and_eq_true, decide_eq_true_eq] at hcheck
    refine ⟨c, hrun, hcheck.1, fun hsound => ?_⟩
    obtain ⟨row, hrow, hid⟩ := List.mem_map.mp (hcheck.2 ▸ List.mem_singleton_self _)
    have honce := hsound.once row hrow
    have hcount : c.shared.jobs.countP (fun job => id job.requestId = id row.id) =
        (c.shared.jobs.map (·.requestId)).countP (fun requestId => requestId = row.id) := by
      rw [List.countP_map]
      rfl
    rw [hcount, hcheck.1, hid] at honce
    exact absurd honce (by decide)
  · obtain ⟨c, hrun, hcheck⟩ :=
      System.exists_run_of_play (fun _ _ => startsNow_of_startsAt) (fun _ _ _ => trivial) hreopened
    simp only [Bool.and_eq_true, decide_eq_true_eq] at hcheck
    refine ⟨c, hrun, hcheck.1, hcheck.2, fun hsound => ?_⟩
    exact (hsound.closed _ (hcheck.1 ▸ List.mem_singleton_self _)).1 rfl

end Samples
end FieldserviceIT.Privacy
