import FieldserviceIT.Admin.DualApproval
import FieldserviceIT.Lib.Protocols
import Mathlib.Data.List.Forall2

/-!
Runs of reviews and protected actions. The checks of an operation are made on
the row it has read, and what it writes names the row by identifier alone. As
long as every write finds the row as it was read, decisions are final and an
approval stands for two approvers; an approved request is presented as often as
anybody likes, and nobody looks at its time again.
-/

namespace FieldserviceIT.Admin

open Common Lib

def Final (now : Int) (row : DualApprovalRequest) : Prop :=
  row.status = .rejected ∨ row.status = .expired ∨ row.status = .executed ∨
    (row.status ≠ .approved ∧ hasExpired now row = true)

/-- Two different people have approved the request, none of them the requester. -/
def TwoApproved (given : List (String × String)) (row : DualApprovalRequest) : Prop :=
  ∃ a b, a ≠ b ∧ a ≠ row.requestedById ∧ b ≠ row.requestedById ∧ (row.id, a) ∈ given ∧
    (row.id, b) ∈ given

/-- A write finds the approval as its request has read it, a review before its
time is over; an approval is presented once, and in time. -/
def Undisturbed (op : GovernanceOp) (s : Governance) : Prop :=
  match op with
  | .reject _ seen | .approveFirst _ seen | .approveSecond _ seen =>
    (∀ row ∈ s.approvals, row.id = seen.id → row = seen) ∧ hasExpired s.now seen = false
  | .execute seen => ∀ row ∈ s.approvals, row.id = seen.id → row = seen
  | .present id actionType resourceId actor =>
    (requireApprovedAction s.approvals id actionType resourceId actor).isSome = true →
      id ∉ s.presented
  | .perform _ approval => ∃ row ∈ s.approvals, row.id = approval.id ∧ hasExpired s.now row = false
  | _ => True

section Discipline

def IsOpen (row : DualApprovalRequest) : Prop :=
  row.status = .pending ∨ row.status = .firstApproved

def Careful (op : GovernanceOp) : Prop :=
  match op with
  | .insertApproval row => row.status = .pending ∧ row.firstApprovedById = none
  | .reject _ seen => IsOpen seen
  | .approveFirst actorId seen => IsOpen seen ∧ actorId ≠ seen.requestedById
  | .approveSecond actorId seen => IsOpen seen ∧ actorId ≠ seen.requestedById ∧
      ∃ a, seen.firstApprovedById = some a ∧ a ≠ actorId
  | .execute seen => seen.status = .approved
  | _ => True

theorem isSome_of_truthy {text : Option String} (h : truthy text = true) :
    ∃ value, text = some value := by
  obtain ⟨value, hvalue, -⟩ := (Option.any_eq_true _ _).mp h
  exact ⟨value, hvalue⟩

theorem approved_of_require {rows : List DualApprovalRequest} {id actionType resourceId : String}
    {actor : CurrentUser} {approval : DualApprovalRequest}
    (h : requireApprovedAction rows id actionType resourceId actor = some approval) :
    approval.status = .approved ∧ approval.id = id := by
  simp only [requireApprovedAction, Option.ite_none_left_eq_some, Option.filter_eq_some_iff,
    scopedApproval, getScopedRow, Bool.and_eq_true, decide_eq_true_eq] at h
  exact ⟨h.2.2.1.1, by simpa using List.find?_some h.2.1.1⟩

theorem all_reviewDualApproval (id decision : String) (actor : CurrentUser) :
    (reviewDualApproval id decision actor).All Careful := by
  refine Prog.all_step trivial fun s => ?_
  split
  · trivial
  · next request _ =>
      split
      · trivial
      · next hopen =>
          have hopen : IsOpen request := by
            by_cases hpending : request.status = .pending
            · exact .inl hpending
            · by_cases hfirst : request.status = .firstApproved
              · exact .inr hfirst
              · simp [hpending, hfirst] at hopen
          refine Prog.all_step trivial fun s' => ?_
          by_cases hexpired : hasExpired s'.now request = true
          · rw [if_pos hexpired]
            trivial
          · rw [if_neg hexpired]
            by_cases hself : request.requestedById = actor.id
            · rw [if_pos hself]
              trivial
            · rw [if_neg hself]
              split
              · exact ⟨hopen, fun _ => trivial⟩
              · split
                · exact ⟨⟨hopen, Ne.symm hself⟩, fun _ => trivial⟩
                · next hfirst =>
                    rw [Bool.not_eq_true', Bool.not_eq_false] at hfirst
                    obtain ⟨a, ha⟩ := isSome_of_truthy hfirst
                    split
                    · trivial
                    · next hother =>
                        refine ⟨⟨hopen, Ne.symm hself, a, ha, fun heq => hother ?_⟩,
                          fun _ => trivial⟩
                        rw [ha, heq]

theorem all_assertApprovedAction (id actionType resourceId : String) (actor : CurrentUser)
    {go : DualApprovalRequest → GovernanceProgram}
    (h : ∀ approval, approval.status = .approved → (go approval).All Careful) :
    (assertApprovedAction id actionType resourceId actor go).All Careful := by
  refine Prog.all_step trivial fun s => ?_
  split
  · trivial
  · next approval happroval => exact h approval (approved_of_require happroval).1

theorem all_requestDualApproval (dto : ApprovalDto) (actor : CurrentUser) :
    (requestDualApproval dto actor).All Careful := by
  unfold requestDualApproval
  split
  · trivial
  · split
    · trivial
    · exact ⟨trivial, fun s => ⟨⟨rfl, rfl⟩, fun _ => trivial⟩⟩

theorem all_startImpersonation (targetUserId approvalRequestId : String) (reason : Option String)
    (minutes : Option Int) (actor : CurrentUser) :
    (startImpersonation targetUserId approvalRequestId reason minutes actor).All Careful := by
  refine Prog.all_step trivial fun s => ?_
  split
  · trivial
  · split
    · trivial
    · refine all_assertApprovedAction _ _ _ _ fun approval happroved => ?_
      exact ⟨trivial, fun _ => ⟨happroved, fun _ => trivial⟩⟩

theorem all_setBreakGlassAccount (userId : String) (enabled : Bool)
    (reason approvalRequestId : String) (actor : CurrentUser) :
    (setBreakGlassAccount userId enabled reason approvalRequestId actor).All Careful := by
  unfold setBreakGlassAccount
  split
  · trivial
  · split
    · refine all_assertApprovedAction _ _ _ _ fun approval _ => Prog.all_step trivial fun s => ?_
      split
      · trivial
      · split
        · trivial
        · split
          · trivial
          · exact ⟨trivial, fun _ => trivial⟩
    · refine Prog.all_step trivial fun s => ?_
      split
      · trivial
      · split
        · trivial
        · split
          · refine Prog.all_step trivial fun s' => ?_
            split
            · exact ⟨trivial, fun _ => trivial⟩
            · trivial
          · exact ⟨trivial, fun _ => trivial⟩

theorem all_exportAccessReview (reviewId approvalRequestId : String) (actor : CurrentUser) :
    (exportAccessReview reviewId approvalRequestId actor).All Careful := by
  refine all_assertApprovedAction _ _ _ _ fun approval _ => Prog.all_step trivial fun s => ?_
  split
  · trivial
  · exact ⟨trivial, fun _ => trivial⟩

theorem all_removeCompany (id approvalRequestId : String) (actor : CurrentUser) :
    (removeCompany id approvalRequestId actor).All Careful := by
  refine all_assertApprovedAction _ _ _ _ fun approval _ => Prog.all_step trivial fun s => ?_
  split
  · exact ⟨trivial, fun _ => ⟨trivial, fun _ => trivial⟩⟩
  · trivial

theorem all_governance (req : GovernanceRequest) : req.handler.All Careful := by
  cases req with
  | requestDualApproval dto actor => exact all_requestDualApproval dto actor
  | reviewDualApproval id decision actor => exact all_reviewDualApproval id decision actor
  | startImpersonation targetUserId approvalRequestId reason minutes actor =>
    exact all_startImpersonation targetUserId approvalRequestId reason minutes actor
  | setBreakGlassAccount userId enabled reason approvalRequestId actor =>
    exact all_setBreakGlassAccount userId enabled reason approvalRequestId actor
  | exportAccessReview reviewId approvalRequestId actor =>
    exact all_exportAccessReview reviewId approvalRequestId actor
  | removeCompany id approvalRequestId actor => exact all_removeCompany id approvalRequestId actor

end Discipline

section Store

variable (uuid : Nat → String)

/-- What the requests, the approvals given and the protected actions have to do
with each other. -/
structure Recorded (s : Governance) : Prop where
  first : ∀ row ∈ s.approvals, ∀ a, row.firstApprovedById = some a →
    a ≠ row.requestedById ∧ (row.id, a) ∈ s.given
  both : ∀ row ∈ s.approvals, row.status = .approved ∨ row.status = .executed →
    TwoApproved s.given row
  inTime : ∀ p ∈ s.performed, ∃ row ∈ s.approvals, row.id = p.approvalId ∧
    hasExpired p.time row = false
  presentedOnce : s.presented.Nodup

theorem mem_updateApproval {id : String} {change : DualApprovalRequest → DualApprovalRequest}
    {s : Governance} {row' : DualApprovalRequest} :
    row' ∈ (updateApproval id change s).approvals ↔
      ∃ row ∈ s.approvals, (if row.id = id then change row else row) = row' := by
  simp [updateApproval]

theorem TwoApproved.mono {given given' : List (String × String)} {row : DualApprovalRequest}
    (hsub : ∀ entry ∈ given, entry ∈ given') (h : TwoApproved given row) :
    TwoApproved given' row := by
  obtain ⟨a, b, hne, ha, hb, hgivenA, hgivenB⟩ := h
  exact ⟨a, b, hne, ha, hb, hsub _ hgivenA, hsub _ hgivenB⟩

theorem effect_approvals (approvalId : String) (action : ProtectedAction) (s : Governance) :
    (action.effect uuid approvalId s).approvals = s.approvals ∧
      (action.effect uuid approvalId s).given = s.given ∧
      (action.effect uuid approvalId s).presented = s.presented ∧
      (action.effect uuid approvalId s).performed = s.performed := by
  cases action <;> exact ⟨rfl, rfl, rfl, rfl⟩

/-- What an update of one approval keeps, when it keeps what names the request,
its requester and its time, and is right about the row that was read. -/
theorem recorded_update {s s' : Governance} {seen : DualApprovalRequest}
    {change : DualApprovalRequest → DualApprovalRequest} (h : Recorded s)
    (happrovals : s'.approvals = (updateApproval seen.id change s).approvals)
    (hgiven : ∀ entry ∈ s.given, entry ∈ s'.given)
    (hperformed : s'.performed = s.performed) (hpresented : s'.presented = s.presented)
    (hread : ∀ row ∈ s.approvals, row.id = seen.id → row = seen)
    (hkeeps : (change seen).id = seen.id ∧ (change seen).expiresAt = seen.expiresAt)
    (hfirst : seen ∈ s.approvals → ∀ a, (change seen).firstApprovedById = some a →
      a ≠ (change seen).requestedById ∧ (seen.id, a) ∈ s'.given)
    (hboth : seen ∈ s.approvals → (change seen).status = .approved ∨
      (change seen).status = .executed → TwoApproved s'.given (change seen)) : Recorded s' := by
  -- each row of the new store is an old one or the changed one
  have hrows : ∀ row' ∈ s'.approvals, row' ∈ s.approvals ∨
      (row' = change seen ∧ seen ∈ s.approvals) := by
    intro row' hrow'
    rw [happrovals, mem_updateApproval] at hrow'
    obtain ⟨row, hrow, rfl⟩ := hrow'
    by_cases hid : row.id = seen.id
    · obtain rfl := hread row hrow hid
      rw [if_pos rfl]
      exact .inr ⟨rfl, hrow⟩
    · rw [if_neg hid]
      exact .inl hrow
  constructor
  · intro row' hrow' a ha
    obtain hold | ⟨rfl, hseen⟩ := hrows row' hrow'
    · obtain ⟨hne, hgave⟩ := h.first row' hold a ha
      exact ⟨hne, hgiven _ hgave⟩
    · obtain ⟨hne, hgave⟩ := hfirst hseen a ha
      exact ⟨hne, hkeeps.1 ▸ hgave⟩
  · intro row' hrow' hstatus
    obtain hold | ⟨rfl, hseen⟩ := hrows row' hrow'
    · exact (h.both row' hold hstatus).mono hgiven
    · exact hboth hseen hstatus
  · intro p hp
    rw [hperformed] at hp
    obtain ⟨row, hrow, hid, htime⟩ := h.inTime p hp
    rw [happrovals]
    by_cases hseen : row.id = seen.id
    · obtain rfl := hread row hrow hseen
      refine ⟨change row, mem_updateApproval.mpr ⟨row, hrow, if_pos rfl⟩, hkeeps.1.trans hid, ?_⟩
      rw [hasExpired, hkeeps.2]
      exact htime
    · exact ⟨row, mem_updateApproval.mpr ⟨row, hrow, if_neg hseen⟩, hid, htime⟩
  · exact hpresented ▸ h.presentedOnce

theorem recorded_of_eq {s s' : Governance} (h : Recorded s)
    (happrovals : s'.approvals = s.approvals) (hgiven : s'.given = s.given)
    (hpresented : s'.presented = s.presented) (hperformed : s'.performed = s.performed) :
    Recorded s' := by
  obtain ⟨hfirst, hboth, htime, honce⟩ := h
  rw [← happrovals, ← hgiven] at hfirst hboth
  rw [← happrovals, ← hperformed] at htime
  exact ⟨hfirst, hboth, htime, hpresented ▸ honce⟩

theorem recorded_exec {op : GovernanceOp} {s : Governance} (h : Recorded s)
    (hallowed : Undisturbed op s) (hcareful : Careful op) :
    Recorded (execGovernance uuid op s) := by
  cases op with
  | read => exact h
  | insertApproval row =>
    simp only [execGovernance]
    split
    · exact recorded_of_eq h rfl rfl rfl rfl
    · obtain ⟨hpending, hnone⟩ := hcareful
      constructor
      · intro row' hrow' a ha
        obtain hold | hnew := List.mem_append.mp hrow'
        · exact h.first row' hold a ha
        · obtain rfl := List.mem_singleton.mp hnew
          rw [hnone] at ha
          cases ha
      · intro row' hrow' hstatus
        obtain hold | hnew := List.mem_append.mp hrow'
        · exact h.both row' hold hstatus
        · obtain rfl := List.mem_singleton.mp hnew
          simp [hpending] at hstatus
      · intro p hp
        obtain ⟨row', hrow', hid, htime⟩ := h.inTime p hp
        exact ⟨row', List.mem_append_left _ hrow', hid, htime⟩
      · exact h.presentedOnce
  | present id actionType resourceId actor =>
    simp only [execGovernance]
    split
    · next hpasses =>
        obtain ⟨hfirst, hboth, htime, honce⟩ := h
        exact ⟨hfirst, hboth, htime, List.nodup_cons.mpr ⟨hallowed hpasses, honce⟩⟩
    · exact h
  | reject actorId seen =>
    refine recorded_update h rfl (fun _ hentry => hentry) rfl rfl hallowed.1 ⟨rfl, rfl⟩
      (fun hseen a ha => h.first seen hseen a ha) (fun _ hstatus => ?_)
    obtain hstatus | hstatus := hstatus <;> cases hstatus
  | approveFirst actorId seen =>
    refine recorded_update h rfl (fun _ hentry => List.mem_cons_of_mem _ hentry) rfl rfl
      hallowed.1 ⟨rfl, rfl⟩ (fun _ a ha => ?_) (fun _ hstatus => ?_)
    · obtain rfl := Option.some.inj ha
      exact ⟨hcareful.2, List.mem_cons_self⟩
    · obtain hstatus | hstatus := hstatus <;> cases hstatus
  | approveSecond actorId seen =>
    obtain ⟨-, hrequester, first, hfirst, hne⟩ := hcareful
    refine recorded_update h rfl (fun _ hentry => List.mem_cons_of_mem _ hentry) rfl rfl
      hallowed.1 ⟨rfl, rfl⟩ (fun hseen a ha => ?_) (fun hseen _ => ?_)
    · obtain ⟨hother, hgave⟩ := h.first seen hseen a ha
      exact ⟨hother, List.mem_cons_of_mem _ hgave⟩
    · obtain ⟨hother, hgave⟩ := h.first seen hseen first hfirst
      exact ⟨first, actorId, hne, hother, hrequester, List.mem_cons_of_mem _ hgave,
        List.mem_cons_self⟩
  | execute seen =>
    refine recorded_update h rfl (fun _ hentry => hentry) rfl rfl hallowed ⟨rfl, rfl⟩
      (fun hseen a ha => h.first seen hseen a ha) (fun hseen _ => ?_)
    exact h.both seen hseen (.inl hcareful)
  | perform action approval =>
    obtain ⟨happrovals, hgiven, hpresented, hperformed⟩ :=
      effect_approvals uuid approval.id action s
    obtain ⟨row, hrow, hid, htime⟩ := hallowed
    have hkept : Recorded (action.effect uuid approval.id s) :=
      recorded_of_eq h happrovals hgiven hpresented hperformed
    refine ⟨hkept.first, hkept.both, fun p hp => ?_, hkept.presentedOnce⟩
    rw [execGovernance] at hp
    obtain rfl | hp := List.mem_cons.mp hp
    · exact ⟨row, happrovals ▸ hrow, hid, htime⟩
    · exact hkept.inTime p (hperformed ▸ hp)
  | deactivateBreakGlass userId => exact recorded_of_eq h rfl rfl rfl rfl
  | deleteCompany id => exact recorded_of_eq h rfl rfl rfl rfl

def KeepsDecisions (s s' : Governance) : Prop :=
  List.Forall₂ (fun row row' : DualApprovalRequest => Final s.now row → row'.status = row.status)
    s.approvals (s'.approvals.take s.approvals.length)

theorem keepsDecisions_of_eq {s s' : Governance} (h : s'.approvals = s.approvals) :
    KeepsDecisions s s' := by
  rw [KeepsDecisions, h, List.take_length]
  exact List.forall₂_same.mpr fun _ _ _ => rfl

theorem keepsDecisions_update {s s' : Governance} {seen : DualApprovalRequest}
    {change : DualApprovalRequest → DualApprovalRequest}
    (happrovals : s'.approvals = (updateApproval seen.id change s).approvals)
    (hread : ∀ row ∈ s.approvals, row.id = seen.id → row = seen) (hopen : ¬ Final s.now seen) :
    KeepsDecisions s s' := by
  rw [KeepsDecisions, happrovals, updateApproval, List.take_of_length_le (by simp),
    List.forall₂_map_right_iff]
  refine List.forall₂_same.mpr fun row hrow hfinal => ?_
  by_cases hid : row.id = seen.id
  · obtain rfl := hread row hrow hid
    exact absurd hfinal hopen
  · rw [if_neg hid]

theorem not_final_of_open {now : Int} {seen : DualApprovalRequest} (hopen : IsOpen seen)
    (htime : hasExpired now seen = false) : ¬ Final now seen := by
  rintro (h | h | h | ⟨-, h⟩)
  · obtain hopen | hopen := hopen <;> cases hopen.symm.trans h
  · obtain hopen | hopen := hopen <;> cases hopen.symm.trans h
  · obtain hopen | hopen := hopen <;> cases hopen.symm.trans h
  · cases htime.symm.trans h

theorem keepsDecisions_exec {op : GovernanceOp} {s : Governance} (hallowed : Undisturbed op s)
    (hcareful : Careful op) : KeepsDecisions s (execGovernance uuid op s) := by
  cases op with
  | read => exact keepsDecisions_of_eq rfl
  | insertApproval row =>
    simp only [execGovernance]
    split
    · exact keepsDecisions_of_eq rfl
    · rw [KeepsDecisions, List.take_left]
      exact List.forall₂_same.mpr fun _ _ _ => rfl
  | present id actionType resourceId actor =>
    simp only [execGovernance]
    split
    · exact keepsDecisions_of_eq rfl
    · exact keepsDecisions_of_eq rfl
  | reject actorId seen =>
    exact keepsDecisions_update rfl hallowed.1 (not_final_of_open hcareful hallowed.2)
  | approveFirst actorId seen =>
    exact keepsDecisions_update rfl hallowed.1 (not_final_of_open hcareful.1 hallowed.2)
  | approveSecond actorId seen =>
    exact keepsDecisions_update rfl hallowed.1 (not_final_of_open hcareful.1 hallowed.2)
  | execute seen =>
    refine keepsDecisions_update rfl hallowed ?_
    rintro (h | h | h | ⟨h, -⟩)
    · cases hcareful.symm.trans h
    · cases hcareful.symm.trans h
    · cases hcareful.symm.trans h
    · exact h hcareful
  | perform action approval =>
    exact keepsDecisions_of_eq (effect_approvals uuid approval.id action s).1
  | deactivateBreakGlass userId => exact keepsDecisions_of_eq rfl
  | deleteCompany id => exact keepsDecisions_of_eq rfl

end Store

section Accounts

def presents (id : String) (op : GovernanceOp) (s : Governance) : Nat :=
  match op with
  | .present id' actionType resourceId actor =>
    if id' = id ∧
        (requireApprovedAction s.approvals id' actionType resourceId actor).isSome = true then 1
    else 0
  | _ => 0

def performs (id : String) (op : GovernanceOp) : Nat :=
  match op with
  | .perform _ approval => if approval.id = id then 1 else 0
  | _ => 0

def timesPresented (id : String) (s : Governance) : Nat :=
  s.presented.count id

def timesPerformed (id : String) (s : Governance) : Nat :=
  s.performed.countP fun p => p.approvalId = id

variable {id : String}

theorem affords_read {next : Governance → GovernanceProgram} {budget : Nat}
    (hnext : ∀ s, (next s).Affords (presents id) (performs id) budget) :
    (Prog.step .read next).Affords (presents id) (performs id) budget :=
  Prog.affords_step (Nat.zero_le _) hnext

theorem affords_assertApprovedAction (approvalId actionType resourceId : String)
    (actor : CurrentUser) {go : DualApprovalRequest → GovernanceProgram}
    (h : ∀ approval, (go approval).Affords (presents id) (performs id)
      (if approval.id = id then 1 else 0)) :
    (assertApprovedAction approvalId actionType resourceId actor go).Affords (presents id)
      (performs id) 0 := by
  refine Prog.affords_step (Nat.zero_le _) fun s => ?_
  cases hfound : requireApprovedAction s.approvals approvalId actionType resourceId actor with
  | none => trivial
  | some approval =>
    have hid := (approved_of_require hfound).2
    have hearned : 0 - performs id (.present approvalId actionType resourceId actor) +
        presents id (.present approvalId actionType resourceId actor) s =
          if approval.id = id then 1 else 0 := by
      simp [performs, presents, hfound, hid]
    rw [hearned]
    exact h approval

theorem affords_perform {action : ProtectedAction} {approval : DualApprovalRequest}
    {next : Governance → GovernanceProgram}
    (hnext : ∀ s, (next s).Affords (presents id) (performs id) 0) :
    (Prog.step (.perform action approval) next).Affords (presents id) (performs id)
      (if approval.id = id then 1 else 0) := by
  refine Prog.affords_step (Nat.le_refl _) fun s => ?_
  rw [performs, Nat.sub_self]
  exact hnext s

theorem affords_handler (req : GovernanceRequest) :
    req.handler.Affords (presents id) (performs id) 0 := by
  cases req with
  | requestDualApproval dto actor =>
    simp only [GovernanceRequest.handler, requestDualApproval]
    split
    · trivial
    · split
      · trivial
      · exact affords_read fun s => Prog.affords_step (Nat.zero_le _) fun _ => trivial
  | reviewDualApproval approvalId decision actor =>
    refine affords_read fun s => ?_
    split
    · trivial
    · split
      · trivial
      · refine affords_read fun s' => ?_
        repeat' split
        all_goals first | trivial | exact Prog.affords_step (Nat.zero_le _) fun _ => trivial
  | startImpersonation targetUserId approvalRequestId reason minutes actor =>
    refine affords_read fun s => ?_
    split
    · trivial
    · split
      · trivial
      · refine affords_assertApprovedAction _ _ _ _ fun approval => affords_perform fun s' => ?_
        exact Prog.affords_step (Nat.zero_le _) fun _ => trivial
  | setBreakGlassAccount userId enabled reason approvalRequestId actor =>
    simp only [GovernanceRequest.handler, setBreakGlassAccount]
    split
    · trivial
    · split
      · refine affords_assertApprovedAction _ _ _ _ fun approval => affords_read fun s => ?_
        split
        · trivial
        · split
          · trivial
          · split
            · trivial
            · exact affords_perform fun _ => trivial
      · refine affords_read fun s => ?_
        split
        · trivial
        · split
          · trivial
          · split
            · refine affords_read fun s' => ?_
              split
              · exact Prog.affords_step (Nat.zero_le _) fun _ => trivial
              · trivial
            · exact Prog.affords_step (Nat.zero_le _) fun _ => trivial
  | exportAccessReview reviewId approvalRequestId actor =>
    refine affords_assertApprovedAction _ _ _ _ fun approval => affords_read fun s => ?_
    split
    · trivial
    · exact affords_perform fun _ => trivial
  | removeCompany companyId approvalRequestId actor =>
    refine affords_assertApprovedAction _ _ _ _ fun approval => affords_read fun s => ?_
    split
    · exact affords_perform fun _ => Prog.affords_step (Nat.zero_le _) fun _ => trivial
    · trivial

variable (uuid : Nat → String)

theorem presented_exec (id : String) (op : GovernanceOp) (s : Governance) :
    timesPresented id s + presents id op s ≤ timesPresented id (execGovernance uuid op s) := by
  cases op with
  | present id' actionType resourceId actor =>
    simp only [presents, execGovernance, timesPresented]
    by_cases hpasses :
        (requireApprovedAction s.approvals id' actionType resourceId actor).isSome = true
    · rw [if_pos hpasses, List.count_cons]
      simp [hpasses]
    · simp [hpasses]
  | insertApproval row =>
    simp only [execGovernance]
    split <;> exact Nat.le_refl _
  | perform action approval =>
    simp only [execGovernance, timesPresented, (effect_approvals uuid approval.id action s).2.2.1,
      presents]
    exact Nat.le_refl _
  | _ => exact Nat.le_refl _

theorem performed_exec (id : String) (op : GovernanceOp) (s : Governance) :
    timesPerformed id (execGovernance uuid op s) ≤ timesPerformed id s + performs id op := by
  cases op with
  | present id' actionType resourceId actor =>
    simp only [execGovernance]
    split <;> exact Nat.le_refl _
  | insertApproval row =>
    simp only [execGovernance]
    split <;> exact Nat.le_refl _
  | perform action approval =>
    simp only [execGovernance, timesPerformed, performs, List.countP_cons, decide_eq_true_eq]
    exact Nat.le_refl _
  | _ => exact Nat.le_refl _

end Accounts

section Runs

variable (uuid : Nat → String)

end Runs

section Samples

instance (op : GovernanceOp) (s : Governance) : Decidable (Undisturbed op s) :=
  match op with
  | .reject _ _ | .approveFirst _ _ | .approveSecond _ _ => inferInstanceAs (Decidable (_ ∧ _))
  | .execute seen =>
    inferInstanceAs (Decidable (∀ row ∈ s.approvals, row.id = seen.id → row = seen))
  | .present id actionType resourceId actor =>
    inferInstanceAs (Decidable
      ((requireApprovedAction s.approvals id actionType resourceId actor).isSome = true →
        id ∉ s.presented))
  | .perform _ approval =>
    inferInstanceAs (Decidable
      (∃ row ∈ s.approvals, row.id = approval.id ∧ hasExpired s.now row = false))
  | .read | .insertApproval _ | .deactivateBreakGlass _ | .deleteCompany _ => isTrue trivial

/-- One review campaign of the company, and nothing requested yet. -/
def sampleGovernance : Governance where
  now := 1700000000000
  drawn := 0
  approvals := []
  accounts := []
  companies := []
  campaigns := [⟨"review-1", some "acme"⟩]
  sessions := []
  given := []
  presented := []
  performed := []

theorem recorded_sample : Recorded sampleGovernance := by
  constructor <;> simp [sampleGovernance]

def approvedExport : List (Move GovernanceRequest) :=
  [.start (.requestDualApproval
      { actionType := some "audit_export", resourceId := some "review-1", reason := some "audit" }
      (sampleActor "admin-1")),
    .run 0, .run 0,
    .start (.reviewDualApproval "xx" "APPROVED" (sampleActor "admin-2")), .run 1, .run 1, .run 1,
    .start (.reviewDualApproval "xx" "APPROVED" (sampleActor "admin-3")), .run 2, .run 2, .run 2]

def sampleExport : Move GovernanceRequest :=
  .start (.exportAccessReview "review-1" "xx" (sampleActor "admin-1"))

end Samples
end FieldserviceIT.Admin
