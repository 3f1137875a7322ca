import FieldserviceIT.Admin.Accounts
import FieldserviceIT.Lib.Protocols

/-!
Access reviews: campaigns, an item for each user in them, and the decision about
one item. A decision looks up its campaign, writes the item, takes the roles away
where it says so, and completes the campaign when nothing is pending.
-/

namespace FieldserviceIT.Admin

open Common Lib

structure ReviewCampaign where
  id : String
  companyId : Option String
  status : String
  completedAt : Option Int
  deriving DecidableEq

structure ReviewItem where
  id : String
  campaignId : String
  userId : String
  decision : String
  notes : Option String
  reviewerId : Option String
  reviewedAt : Option Int
  deriving DecidableEq

structure ReviewStore where
  now : Int
  accounts : List Account
  campaigns : List ReviewCampaign
  items : List ReviewItem
  userRoles : List (String × String)

inductive ReviewOp where
  | read
  | updateItem (reviewId itemId decision : String) (notes : Option String) (actorId : String)
  | selectItem (itemId : String)
  | countSuperAdmins (userId : String)
  | deleteRoles (userId : String)
  | countPending (reviewId : String)
  | complete (reviewId : String)

def ReviewItem.decided (decision : String) (notes : Option String) (actorId : String) (now : Int)
    (item : ReviewItem) : ReviewItem :=
  { item with
    decision := decision, notes := notes, reviewerId := some actorId, reviewedAt := some now }

def isItemOf (reviewId itemId : String) (item : ReviewItem) : Bool :=
  item.id = itemId && item.campaignId = reviewId

def execReview (op : ReviewOp) (s : ReviewStore) : ReviewStore :=
  match op with
  | .read | .selectItem _ | .countSuperAdmins _ | .countPending _ => s
  | .updateItem reviewId itemId decision notes actorId =>
    { s with
      items := s.items.map fun item =>
        if isItemOf reviewId itemId item then item.decided decision notes actorId s.now else item }
  | .deleteRoles userId =>
    { s with
      userRoles := s.userRoles.filter fun assignment => assignment.1 ≠ userId }
  | .complete reviewId =>
    { s with
      campaigns := updateRow (·.id) reviewId
        (fun campaign => { campaign with status := "COMPLETED", completedAt := some s.now })
        s.campaigns }

abbrev ReviewProgram := Prog ReviewStore ReviewOp

def hasPending (reviewId : String) (items : List ReviewItem) : Bool :=
  items.any fun item => item.campaignId = reviewId && item.decision = "PENDING"

def completeIfDecided (reviewId : String) : ReviewProgram :=
  .step (.countPending reviewId) fun s =>
    if hasPending reviewId s.items then .done else .step (.complete reviewId) fun _ => .done

/-- `assertNotLastSuperAdmin`, and what goes on when it does not object. -/
def assertNotLastSuperAdmin (userId : String) (go : ReviewProgram) : ReviewProgram :=
  .step .read fun s =>
    match s.accounts.find? fun user => user.id = userId with
    | none => go
    | some user =>
      if user.role ≠ .superAdmin then go
      else
        .step (.countSuperAdmins userId) fun s' =>
          if anotherSuperAdmin s'.accounts userId then go else .fail

/-- A missing item is bound as `undefined`, which the driver refuses. -/
def decideAccessReviewItem (reviewId itemId decision : String) (notes : Option String)
    (actor : CurrentUser) : ReviewProgram :=
  .step .read fun s =>
    match getScopedRow (·.id) (·.companyId) s.campaigns reviewId actor with
    | none => .fail
    | some _ =>
      .step (.updateItem reviewId itemId decision (orNull notes) actor.id) fun _ =>
        if decision = "REVOKE" then
          .step (.selectItem itemId) fun s₁ =>
            match s₁.items.find? fun item => item.id = itemId with
            | none => .fail
            | some item =>
              let revoke : ReviewProgram :=
                .step (.deleteRoles item.userId) fun _ => completeIfDecided reviewId
              .step .read fun s₂ =>
                match s₂.accounts.find? fun user => user.id = item.userId with
                | none => revoke
                | some user =>
                  if user.role = .superAdmin then assertNotLastSuperAdmin user.id revoke
                  else revoke
        else completeIfDecided reviewId

structure ReviewDecision where
  reviewId : String
  itemId : String
  decision : String
  notes : Option String
  actor : CurrentUser

def reviewSystem : System ReviewStore ReviewOp ReviewDecision where
  exec := execReview
  tick s := { s with now := s.now + 1 }
  handler d := decideAccessReviewItem d.reviewId d.itemId d.decision d.notes d.actor
  sendable _ _ := True

section Protocol

/-- Decisions decide; and no one is refused who has already written. -/
def Decisive (op : ReviewOp) (s : ReviewStore) : Prop :=
  match op with
  | .updateItem _ _ decision _ _ => decision ≠ "PENDING"
  | .countSuperAdmins userId => anotherSuperAdmin s.accounts userId = true
  | _ => True

/-- How far a decision about an item of the one campaign has come. -/
inductive Deciding where
  | idle
  | written (itemId : String)
  | completing
  deriving DecidableEq

def deciding (reviewId : String) (phase : Deciding) (op : ReviewOp) (s : ReviewStore) :
    Option Deciding :=
  match op with
  | .updateItem reviewId' itemId _ _ _ =>
    if reviewId' = reviewId ∧ s.items.any (isItemOf reviewId itemId) = true then
      if phase = .idle then some (.written itemId) else none
    else some phase
  | .selectItem itemId =>
    if phase = .written itemId ∧ (s.items.find? fun item => item.id = itemId) = none then
      some .idle
    else some phase
  | .countPending reviewId' =>
    if reviewId' = reviewId then
      if hasPending reviewId s.items then some .idle else some .completing
    else some phase
  | .complete reviewId' =>
    if reviewId' = reviewId then if phase = .completing then some .idle else none
    else some phase
  | _ => some phase

/-- The campaign is completed when nothing is pending, as far as nobody is still
at it. -/
structure CampaignAgrees (reviewId : String) (s : ReviewStore) (phases : List Deciding) : Prop where
  completed : ∀ campaign ∈ s.campaigns, campaign.id = reviewId → campaign.status = "COMPLETED" →
    hasPending reviewId s.items = false
  owed : hasPending reviewId s.items = false →
    (∀ campaign ∈ s.campaigns, campaign.id = reviewId → campaign.status = "COMPLETED") ∨
      ∃ phase ∈ phases, phase ≠ .idle
  completing : .completing ∈ phases → hasPending reviewId s.items = false
  written : ∀ itemId, .written itemId ∈ phases → ∃ item ∈ s.items, item.id = itemId

variable {reviewId : String}

abbrev FollowsCampaign (reviewId : String) (program : ReviewProgram) (phase : Deciding) : Prop :=
  program.Conforms Decisive (deciding reviewId) (· = .idle) phase

theorem conforms_completeIfDecided {own : String} {phase : Deciding}
    (hphase : phase = .idle ∨ own = reviewId) :
    FollowsCampaign reviewId (completeIfDecided own) phase := by
  by_cases hown : own = reviewId
  · subst hown
    refine Prog.conforms_step
      (fun s => if hasPending own s.items then .idle else .completing) (fun s _ => ?_)
      (fun s _ => ?_)
    · simp only [deciding, if_true]
      split <;> rfl
    · split
      · exact rfl
      · refine Prog.conforms_step (fun _ => .idle) (fun s' _ => ?_) (fun s' _ => rfl)
        simp [deciding]
  · obtain rfl : phase = .idle := hphase.resolve_right hown
    refine Prog.conforms_step (fun _ => .idle) (fun s _ => if_neg hown) (fun s _ => ?_)
    split
    · exact rfl
    · exact Prog.conforms_step (fun _ => .idle) (fun s' _ => if_neg hown) (fun s' _ => rfl)

theorem conforms_assertNotLastSuperAdmin {userId : String} {go : ReviewProgram} {phase : Deciding}
    (hgo : FollowsCampaign reviewId go phase) :
    FollowsCampaign reviewId (assertNotLastSuperAdmin userId go) phase := by
  refine Prog.conforms_step (fun _ => phase) (fun s _ => rfl) (fun s _ => ?_)
  split
  · exact hgo
  · split
    · exact hgo
    · refine Prog.conforms_step (fun _ => phase) (fun s' _ => rfl) (fun s' hanother => ?_)
      have hanother : anotherSuperAdmin s'.accounts userId = true := hanother
      rw [if_pos hanother]
      exact hgo

theorem conforms_decide (d : ReviewDecision) :
    FollowsCampaign reviewId (reviewSystem.handler d) .idle := by
  obtain ⟨own, itemId, decision, notes, actor⟩ := d
  refine Prog.conforms_step (fun _ => .idle) (fun s _ => rfl) (fun s _ => ?_)
  split
  · exact rfl
  · refine Prog.conforms_step
      (fun s => if own = reviewId ∧ s.items.any (isItemOf reviewId itemId) = true then
        .written itemId else .idle) (fun s _ => ?_) (fun s' _ => ?_)
    · simp only [deciding, if_true]
      split <;> rfl
    · generalize hphase : (if own = reviewId ∧ s'.items.any (isItemOf reviewId itemId) = true then
        Deciding.written itemId else .idle) = phase
      have hwritten : phase = .idle ∨ (phase = .written itemId ∧ own = reviewId) := by
        subst hphase
        split
        · next hboth => exact .inr ⟨rfl, hboth.1⟩
        · exact .inl rfl
      have hown : phase = .idle ∨ own = reviewId := hwritten.imp_right (·.2)
      split
      · refine Prog.conforms_step
          (fun s₁ => if (s₁.items.find? fun item => item.id = itemId) = none then .idle else phase)
          (fun s₁ _ => ?_) (fun s₁ _ => ?_)
        · simp only [deciding]
          by_cases hmissing : (s₁.items.find? fun item => item.id = itemId) = none
          · obtain rfl | ⟨rfl, -⟩ := hwritten
            · simp
            · simp [hmissing]
          · simp [hmissing]
        · cases hfound : s₁.items.find? fun item => item.id = itemId with
          | none => exact rfl
          | some item =>
            have hrevoke : FollowsCampaign reviewId
                (.step (.deleteRoles item.userId) fun _ => completeIfDecided own) phase :=
              Prog.conforms_step (fun _ => phase) (fun s₂ _ => rfl) fun s₂ _ =>
                conforms_completeIfDecided hown
            refine Prog.conforms_step (fun _ => phase) (fun s₂ _ => rfl) fun s₂ _ => ?_
            split
            · exact hrevoke
            · split
              · exact conforms_assertNotLastSuperAdmin hrevoke
              · exact hrevoke
      · exact conforms_completeIfDecided hown

theorem hasPending_decide {own itemId decision : String} {notes : Option String} {actorId : String}
    {s : ReviewStore} (hdecision : decision ≠ "PENDING")
    (h : hasPending reviewId
      (execReview (.updateItem own itemId decision notes actorId) s).items = true) :
    hasPending reviewId s.items = true := by
  simp only [hasPending, execReview, List.any_map, List.any_eq_true, Function.comp_apply,
    Bool.and_eq_true, decide_eq_true_eq] at h ⊢
  obtain ⟨item, hitem, hcampaign, hpending⟩ := h
  by_cases hown : isItemOf own itemId item = true
  · rw [if_pos hown] at hpending
    exact absurd hpending hdecision
  · rw [if_neg hown] at hcampaign hpending
    exact ⟨item, hitem, hcampaign, hpending⟩

theorem hasPending_decide_other {own itemId decision : String} {notes : Option String}
    {actorId : String} {s : ReviewStore}
    (hother : ¬ (own = reviewId ∧ s.items.any (isItemOf reviewId itemId) = true))
    (h : hasPending reviewId s.items = true) :
    hasPending reviewId
      (execReview (.updateItem own itemId decision notes actorId) s).items = true := by
  simp only [hasPending, execReview, List.any_map, List.any_eq_true, Function.comp_apply,
    Bool.and_eq_true, decide_eq_true_eq] at h ⊢
  obtain ⟨item, hitem, hcampaign, hpending⟩ := h
  have hown : ¬ isItemOf own itemId item = true := by
    intro hown
    simp only [isItemOf, Bool.and_eq_true, decide_eq_true_eq] at hown
    obtain rfl : own = reviewId := hown.2.symm.trans hcampaign
    exact hother ⟨rfl, List.any_eq_true.mpr ⟨item, hitem, by simp [isItemOf, hown]⟩⟩
  exact ⟨item, hitem, by rw [if_neg hown]; exact hcampaign, by rw [if_neg hown]; exact hpending⟩

theorem mem_set_self {phases : List Deciding} {i : Nat} {old : Deciding}
    (hi : phases[i]? = some old) (phase : Deciding) : phase ∈ phases.set i phase :=
  List.mem_set (List.getElem?_eq_some_iff.mp hi).1 phase

theorem set_same {phases : List Deciding} {i : Nat} {phase : Deciding}
    (hi : phases[i]? = some phase) : phases.set i phase = phases := by
  obtain ⟨hlength, hphase⟩ := List.getElem?_eq_some_iff.mp hi
  rw [← hphase, List.set_getElem_self]

theorem CampaignAgrees.frame {s s' : ReviewStore} {phases : List Deciding}
    (h : CampaignAgrees reviewId s phases) (hcampaigns : s'.campaigns = s.campaigns)
    (hitems : s'.items = s.items) : CampaignAgrees reviewId s' phases := by
  obtain ⟨hcompleted, howed, hcompleting, hwritten⟩ := h
  rw [← hcampaigns, ← hitems] at hcompleted howed
  rw [← hitems] at hcompleting hwritten
  exact ⟨hcompleted, howed, hcompleting, hwritten⟩

theorem CampaignAgrees.update {own itemId decision : String} {notes : Option String}
    {actorId : String} {s : ReviewStore} {phases : List Deciding} {i : Nat} {phase phase' : Deciding}
    (h : CampaignAgrees reviewId s phases) (hdecision : decision ≠ "PENDING")
    (hi : phases[i]? = some phase)
    (hadvance : deciding reviewId phase (.updateItem own itemId decision notes actorId) s =
      some phase') :
    CampaignAgrees reviewId (execReview (.updateItem own itemId decision notes actorId) s)
      (phases.set i phase') := by
  have hfewer : hasPending reviewId s.items = false → hasPending reviewId
      (execReview (.updateItem own itemId decision notes actorId) s).items = false := fun hnone =>
    Bool.eq_false_iff.mpr fun hsome =>
      absurd (hasPending_decide hdecision hsome) (by rw [hnone]; decide)
  -- items keep their identifiers
  have hkept : ∀ x, (∃ item ∈ s.items, item.id = x) → ∃ item ∈
      (execReview (.updateItem own itemId decision notes actorId) s).items, item.id = x := by
    rintro x ⟨item, hitem, rfl⟩
    refine ⟨_, List.mem_map_of_mem hitem, ?_⟩
    split <;> rfl
  simp only [deciding] at hadvance
  by_cases hown : own = reviewId ∧ s.items.any (isItemOf reviewId itemId) = true
  · rw [if_pos hown] at hadvance
    obtain ⟨-, heq⟩ := Option.ite_none_right_eq_some.mp hadvance
    obtain rfl := Option.some.inj heq
    refine ⟨fun campaign hcampaign hid hstatus => hfewer (h.completed campaign hcampaign hid hstatus),
      fun _ => .inr ⟨_, mem_set_self hi _, by simp⟩, fun hmem => ?_, fun x hmem => ?_⟩
    · obtain hmem | hmem := List.mem_or_eq_of_mem_set hmem
      · exact hfewer (h.completing hmem)
      · cases hmem
    · apply hkept
      obtain hmem | hmem := List.mem_or_eq_of_mem_set hmem
      · exact h.written x hmem
      · obtain ⟨item, hitem, hof⟩ := List.any_eq_true.mp hown.2
        simp only [isItemOf, Bool.and_eq_true, decide_eq_true_eq] at hof
        obtain rfl : x = itemId := by simpa using hmem
        exact ⟨item, hitem, hof.1⟩
  · rw [if_neg hown] at hadvance
    obtain rfl := Option.some.inj hadvance
    rw [set_same hi]
    refine ⟨fun campaign hcampaign hid hstatus => hfewer (h.completed campaign hcampaign hid hstatus),
      fun hnone => h.owed ?_, fun hmem => hfewer (h.completing hmem), fun x hmem =>
        hkept x (h.written x hmem)⟩
    exact Bool.eq_false_iff.mpr fun hsome =>
      absurd (hasPending_decide_other hown hsome) (by rw [hnone]; decide)

theorem CampaignAgrees.count {s : ReviewStore} {phases : List Deciding} {i : Nat}
    {phase : Deciding} (h : CampaignAgrees reviewId s phases) (hi : phases[i]? = some phase) :
    CampaignAgrees reviewId s
      (phases.set i (if hasPending reviewId s.items then .idle else .completing)) := by
  cases hpending : hasPending reviewId s.items with
  | true =>
    refine ⟨h.completed, fun hnone => ?_, fun hmem => ?_, fun x hmem => ?_⟩
    · rw [hpending] at hnone
      cases hnone
    · obtain hmem | hmem := List.mem_or_eq_of_mem_set hmem
      · exact h.completing hmem
      · cases hmem
    · obtain hmem | hmem := List.mem_or_eq_of_mem_set hmem
      · exact h.written x hmem
      · cases hmem
  | false =>
    refine ⟨h.completed, fun _ => .inr ⟨.completing, mem_set_self hi _, by simp⟩,
      fun _ => hpending, fun x hmem => ?_⟩
    obtain hmem | hmem := List.mem_or_eq_of_mem_set hmem
    · exact h.written x hmem
    · cases hmem

theorem mem_complete {own : String} {s : ReviewStore} {campaign : ReviewCampaign} :
    campaign ∈ (execReview (.complete own) s).campaigns ↔ ∃ before ∈ s.campaigns,
      (if before.id = own then
        { before with status := "COMPLETED", completedAt := some s.now } else before) = campaign := by
  simp [execReview, updateRow]

theorem CampaignAgrees.complete {own : String} {s : ReviewStore} {phases : List Deciding} {i : Nat}
    {phase phase' : Deciding} (h : CampaignAgrees reviewId s phases) (hi : phases[i]? = some phase)
    (hadvance : deciding reviewId phase (.complete own) s = some phase') :
    CampaignAgrees reviewId (execReview (.complete own) s) (phases.set i phase') := by
  simp only [deciding] at hadvance
  by_cases hown : own = reviewId
  · subst hown
    rw [if_pos rfl] at hadvance
    obtain ⟨rfl, heq⟩ := Option.ite_none_right_eq_some.mp hadvance
    obtain rfl := Option.some.inj heq
    have hnone := h.completing (List.mem_of_getElem? hi)
    refine ⟨fun _ _ _ _ => hnone, fun _ => .inl fun campaign hcampaign hid => ?_, fun _ => hnone,
      fun x hmem => ?_⟩
    · obtain ⟨before, -, rfl⟩ := mem_complete.mp hcampaign
      by_cases hbefore : before.id = own
      · rw [if_pos hbefore]
      · rw [if_neg hbefore] at hid
        exact absurd hid hbefore
    · obtain hmem | hmem := List.mem_or_eq_of_mem_set hmem
      · exact h.written x hmem
      · cases hmem
  · rw [if_neg hown] at hadvance
    obtain rfl := Option.some.inj hadvance
    rw [set_same hi]
    have hsame : ∀ campaign ∈ (execReview (.complete own) s).campaigns, campaign.id = reviewId →
        campaign ∈ s.campaigns := by
      intro campaign hcampaign hid
      obtain ⟨before, hbefore, rfl⟩ := mem_complete.mp hcampaign
      by_cases heq : before.id = own
      · rw [if_pos heq] at hid
        exact absurd (heq.symm.trans hid) hown
      · rw [if_neg heq]
        exact hbefore
    refine ⟨fun campaign hcampaign hid => h.completed campaign (hsame campaign hcampaign hid) hid,
      fun hnone => ?_, h.completing, h.written⟩
    obtain hall | hsome := h.owed hnone
    · exact .inl fun campaign hcampaign hid => hall campaign (hsame campaign hcampaign hid) hid
    · exact .inr hsome

theorem campaign_protocol (reviewId : String) : Protocol reviewSystem Decisive (deciding reviewId)
    (· = .idle) .idle (CampaignAgrees reviewId) where
  handler _ d _ := conforms_decide d
  start s phases h := by
    refine ⟨h.completed, fun hnone => ?_, fun hmem => ?_, fun x hmem => ?_⟩
    · obtain hall | ⟨phase, hphase, hne⟩ := h.owed hnone
      · exact .inl hall
      · exact .inr ⟨phase, List.mem_append_left _ hphase, hne⟩
    · exact h.completing (by simpa using hmem)
    · exact h.written x (by simpa using hmem)
  exec op s phases i phase phase' h hallowed hi hadvance := by
    cases op with
    | read =>
      obtain rfl := Option.some.inj hadvance
      rw [set_same hi]
      exact h
    | updateItem own itemId decision notes actorId => exact h.update hallowed hi hadvance
    | selectItem itemId =>
      simp only [deciding] at hadvance
      split at hadvance
      · next hmissing =>
          -- an item that was written is still there
          obtain ⟨rfl, hmissing⟩ := hmissing
          obtain ⟨item, hitem, hid⟩ := h.written itemId (List.mem_of_getElem? hi)
          exact absurd hmissing (by simpa using ⟨item, hitem, hid⟩)
      · obtain rfl := Option.some.inj hadvance
        rw [set_same hi]
        exact h
    | countSuperAdmins userId =>
      obtain rfl := Option.some.inj hadvance
      rw [set_same hi]
      exact h
    | deleteRoles userId =>
      obtain rfl := Option.some.inj hadvance
      rw [set_same hi]
      exact h.frame rfl rfl
    | countPending own =>
      simp only [deciding] at hadvance
      split at hadvance
      · have hcount := h.count hi
        split at hadvance
        · next hpending =>
            obtain rfl := Option.some.inj hadvance
            rw [if_pos hpending] at hcount
            exact hcount
        · next hpending =>
            obtain rfl := Option.some.inj hadvance
            rw [if_neg hpending] at hcount
            exact hcount
      · obtain rfl := Option.some.inj hadvance
        rw [set_same hi]
        exact h
    | complete own => exact h.complete hi hadvance
  tick s phases h := h.frame rfl rfl

end Protocol

section Alone

variable (d : ReviewDecision) (s : ReviewStore)

/-- What one decision leaves behind, and whether it ends in an error. -/
def afterDecision : ReviewStore := reviewSystem.alone (reviewSystem.handler d) s

def decisionThrows : Bool := reviewSystem.throws (reviewSystem.handler d) s

/-- The role assignments of users without an item in the review stay. -/
def OwnRolesOnly : Prop :=
  ∀ userId, (¬ ∃ item ∈ s.items, item.campaignId = d.reviewId ∧ item.userId = userId) →
    (afterDecision d s).userRoles.filter (·.1 = userId) = s.userRoles.filter (·.1 = userId)

def AllOrNothing : Prop :=
  decisionThrows d s = true → (afterDecision d s).items = s.items ∧
    (afterDecision d s).campaigns = s.campaigns ∧ (afterDecision d s).userRoles = s.userRoles

def opensReview : Bool :=
  (getScopedRow ReviewCampaign.id ReviewCampaign.companyId s.campaigns d.reviewId d.actor).isSome

def lastSuperAdmin (accounts : List Account) (userId : String) : Bool :=
  (accounts.find? fun user => user.id = userId).any (·.role = .superAdmin) &&
    !anotherSuperAdmin accounts userId

/-- What a revocation may be about: of the last super administrator, nothing that
would be written; of anybody else, a user of the review or one without roles. -/
def RevokesOwn : Prop :=
  d.decision = "REVOKE" → opensReview d s = true →
    ∀ item, (s.items.find? fun item => item.id = d.itemId) = some item →
      if lastSuperAdmin s.accounts item.userId = true then
        ∀ other ∈ s.items, isItemOf d.reviewId d.itemId other = true →
          other.decided d.decision (orNull d.notes) d.actor.id s.now = other
      else
        (∃ other ∈ s.items, other.campaignId = d.reviewId ∧ other.userId = item.userId) ∨
          ∀ assignment ∈ s.userRoles, assignment.1 ≠ item.userId

def written : ReviewStore :=
  execReview (.updateItem d.reviewId d.itemId d.decision (orNull d.notes) d.actor.id) s

variable {d s}

theorem alone_completeIfDecided (reviewId : String) (s : ReviewStore) :
    (reviewSystem.alone (completeIfDecided reviewId) s).items = s.items ∧
      (reviewSystem.alone (completeIfDecided reviewId) s).userRoles = s.userRoles ∧
      reviewSystem.throws (completeIfDecided reviewId) s = false := by
  simp only [completeIfDecided, System.alone, System.throws, reviewSystem, execReview]
  split <;> simp [System.alone, System.throws, execReview]

theorem find_written (d : ReviewDecision) (s : ReviewStore) :
    ((written d s).items.find? fun item => item.id = d.itemId).map (·.userId) =
      (s.items.find? fun item => item.id = d.itemId).map (·.userId) := by
  simp only [written, execReview, List.find?_map, Option.map_map, Function.comp_def]
  have hid : (fun item : ReviewItem => decide ((if isItemOf d.reviewId d.itemId item = true then
      item.decided d.decision (orNull d.notes) d.actor.id s.now else item).id = d.itemId)) =
      fun item => decide (item.id = d.itemId) := by
    funext item
    split <;> rfl
  have huser : (fun item : ReviewItem => (if isItemOf d.reviewId d.itemId item = true then
      item.decided d.decision (orNull d.notes) d.actor.id s.now else item).userId) =
      fun item => item.userId := by
    funext item
    split <;> rfl
  rw [hid, huser]

def afterWriting (d : ReviewDecision) : ReviewProgram :=
  if d.decision = "REVOKE" then
    .step (.selectItem d.itemId) fun s₁ =>
      match s₁.items.find? fun item => item.id = d.itemId with
      | none => .fail
      | some item =>
        let revoke : ReviewProgram :=
          .step (.deleteRoles item.userId) fun _ => completeIfDecided d.reviewId
        .step .read fun s₂ =>
          match s₂.accounts.find? fun user => user.id = item.userId with
          | none => revoke
          | some user =>
            if user.role = .superAdmin then assertNotLastSuperAdmin user.id revoke
            else revoke
  else completeIfDecided d.reviewId

theorem decision_closed (h : opensReview d s = false) :
    afterDecision d s = s ∧ decisionThrows d s = true := by
  simp only [opensReview, Option.isSome_eq_false_iff, Option.isNone_iff_eq_none] at h
  simp only [afterDecision, decisionThrows, reviewSystem, decideAccessReviewItem, System.alone,
    System.throws, h]
  exact ⟨rfl, trivial⟩

theorem decision_opened (h : opensReview d s = true) :
    afterDecision d s = reviewSystem.alone (afterWriting d) (written d s) ∧
      decisionThrows d s = reviewSystem.throws (afterWriting d) (written d s) := by
  obtain ⟨campaign, hcampaign⟩ := Option.isSome_iff_exists.mp h
  simp only [afterDecision, decisionThrows, reviewSystem, decideAccessReviewItem, System.alone,
    System.throws, hcampaign]
  exact ⟨rfl, rfl⟩

theorem decision_other (hdecision : d.decision ≠ "REVOKE") (s : ReviewStore) :
    (reviewSystem.alone (afterWriting d) s).userRoles = s.userRoles ∧
      reviewSystem.throws (afterWriting d) s = false := by
  rw [afterWriting, if_neg hdecision]
  exact (alone_completeIfDecided d.reviewId s).2

theorem revoke_missing (hdecision : d.decision = "REVOKE")
    (hitem : (s.items.find? fun item => item.id = d.itemId) = none) :
    reviewSystem.alone (afterWriting d) s = s ∧
      reviewSystem.throws (afterWriting d) s = true := by
  simp only [afterWriting, if_pos hdecision, System.alone, System.throws, hitem]
  exact ⟨rfl, trivial⟩

theorem revoke_last {item : ReviewItem} (hdecision : d.decision = "REVOKE")
    (hitem : (s.items.find? fun item => item.id = d.itemId) = some item)
    (hlast : lastSuperAdmin s.accounts item.userId = true) :
    reviewSystem.alone (afterWriting d) s = s ∧
      reviewSystem.throws (afterWriting d) s = true := by
  rw [lastSuperAdmin, Bool.and_eq_true, Bool.not_eq_true', Option.any_eq_true] at hlast
  obtain ⟨⟨user, huser, hrole⟩, hother⟩ := hlast
  have hrole : user.role = .superAdmin := of_decide_eq_true hrole
  have hid : user.id = item.userId := by simpa using List.find?_some huser
  simp only [afterWriting, if_pos hdecision, System.alone, System.throws, reviewSystem, execReview,
    hitem, huser, hrole, if_true, assertNotLastSuperAdmin, hid, ne_eq, not_true, if_false, hother]
  exact ⟨rfl, rfl⟩

theorem revoke_done {item : ReviewItem} (hdecision : d.decision = "REVOKE")
    (hitem : (s.items.find? fun item => item.id = d.itemId) = some item)
    (hlast : lastSuperAdmin s.accounts item.userId = false) :
    (reviewSystem.alone (afterWriting d) s).userRoles =
        s.userRoles.filter (fun assignment => assignment.1 ≠ item.userId) ∧
      reviewSystem.throws (afterWriting d) s = false := by
  have hdone := (alone_completeIfDecided d.reviewId (execReview (.deleteRoles item.userId) s)).2
  simp only [afterWriting, if_pos hdecision, System.alone, System.throws, reviewSystem, execReview,
    hitem]
  cases huser : s.accounts.find? fun user => user.id = item.userId with
  | none => exact hdone
  | some user =>
    have hid : user.id = item.userId := by simpa using List.find?_some huser
    by_cases hrole : user.role = .superAdmin
    · have hanother : anotherSuperAdmin s.accounts item.userId = true := by
        simpa [lastSuperAdmin, huser, hrole] using hlast
      simp only [hrole, if_true, assertNotLastSuperAdmin, System.alone, System.throws, execReview,
        hid, huser, ne_eq, not_true, if_false, hanother]
      exact hdone
    · simp only [hrole, if_false]
      exact hdone

theorem written_items_eq_iff : (written d s).items = s.items ↔
    ∀ other ∈ s.items, isItemOf d.reviewId d.itemId other = true →
      other.decided d.decision (orNull d.notes) d.actor.id s.now = other := by
  have hmap : (written d s).items = s.items ↔ s.items.map (fun item =>
      if isItemOf d.reviewId d.itemId item = true then
        item.decided d.decision (orNull d.notes) d.actor.id s.now else item) =
      s.items.map fun item => item := by
    rw [List.map_id']
    rfl
  rw [hmap, List.map_inj_left]
  refine forall₂_congr fun other _ => ?_
  split
  · next hof => simp [hof]
  · next hof => simp [hof]

theorem ownRoles_filter_iff (userId : String) :
    (∀ other, (¬ ∃ item ∈ s.items, item.campaignId = d.reviewId ∧ item.userId = other) →
      (s.userRoles.filter fun assignment => assignment.1 ≠ userId).filter (·.1 = other) =
        s.userRoles.filter (·.1 = other)) ↔
      (∃ item ∈ s.items, item.campaignId = d.reviewId ∧ item.userId = userId) ∨
        ∀ assignment ∈ s.userRoles, assignment.1 ≠ userId := by
  constructor
  · intro h
    by_cases hown : ∃ item ∈ s.items, item.campaignId = d.reviewId ∧ item.userId = userId
    · exact .inl hown
    · refine .inr fun assignment hassignment huser => ?_
      have hmem : assignment ∈ s.userRoles.filter (·.1 = userId) :=
        List.mem_filter.mpr ⟨hassignment, by simpa using huser⟩
      rw [← h userId hown, List.mem_filter, List.mem_filter] at hmem
      simp [huser] at hmem
  · intro h other hother
    rw [List.filter_filter]
    refine List.filter_congr fun assignment hassignment => ?_
    by_cases huser : assignment.1 = other
    · have hne : other ≠ userId := by
        rintro rfl
        obtain hown | hnone := h
        · exact hother hown
        · exact hnone assignment hassignment huser
      simp [huser, hne]
    · simp [huser]

/-- One decision by itself stays with its review, and changes all or nothing,
exactly when a revocation is about a user of the review whom it may revoke. -/
theorem decision_own_iff (d : ReviewDecision) (s : ReviewStore) :
    (OwnRolesOnly d s ∧ AllOrNothing d s) ↔ RevokesOwn d s := by
  cases hopens : opensReview d s with
  | false =>
    obtain ⟨hafter, hthrows⟩ := decision_closed hopens
    simp [OwnRolesOnly, AllOrNothing, RevokesOwn, hafter, hopens]
  | true =>
    obtain ⟨hafter, hthrows⟩ := decision_opened hopens
    by_cases hdecision : d.decision = "REVOKE"
    · cases hitem : s.items.find? fun item => item.id = d.itemId with
      | none =>
        have hmissing : ((written d s).items.find? fun item => item.id = d.itemId) = none := by
          have hfind := find_written d s
          rw [hitem] at hfind
          simpa using hfind
        rw [(revoke_missing hdecision hmissing).1] at hafter
        have hitems : (written d s).items = s.items := by
          refine written_items_eq_iff.mpr fun other hother hof => ?_
          rw [List.find?_eq_none] at hitem
          simp only [isItemOf, Bool.and_eq_true] at hof
          exact absurd hof.1 (hitem other hother)
        refine iff_of_true ⟨fun _ _ => ?_, fun _ => ?_⟩ fun _ _ item h => ?_
        · rw [hafter]
          rfl
        · rw [hafter]
          exact ⟨hitems, rfl, rfl⟩
        · rw [hitem] at h
          cases h
      | some item =>
        have hfind := find_written d s
        rw [hitem, Option.map_some, Option.map_eq_some_iff] at hfind
        obtain ⟨item', hitem', huser⟩ := hfind
        have hcondition : RevokesOwn d s ↔
            if lastSuperAdmin s.accounts item.userId = true then
              ∀ other ∈ s.items, isItemOf d.reviewId d.itemId other = true →
                other.decided d.decision (orNull d.notes) d.actor.id s.now = other
            else
              (∃ other ∈ s.items, other.campaignId = d.reviewId ∧
                other.userId = item.userId) ∨
                ∀ assignment ∈ s.userRoles, assignment.1 ≠ item.userId := by
          simp [RevokesOwn, hdecision, hopens, hitem]
        rw [hcondition]
        cases hlast : lastSuperAdmin s.accounts item.userId with
        | true =>
          obtain ⟨hsame, herror⟩ := revoke_last hdecision hitem' (huser.symm ▸ hlast)
          rw [hsame] at hafter
          rw [herror] at hthrows
          rw [if_pos rfl, ← written_items_eq_iff]
          simp only [OwnRolesOnly, AllOrNothing, hafter, hthrows]
          exact ⟨fun h => (h.2 trivial).1, fun h => ⟨fun _ _ => rfl, fun _ => ⟨h, rfl, rfl⟩⟩⟩
        | false =>
          obtain ⟨hroles, hdone⟩ := revoke_done hdecision hitem' (huser.symm ▸ hlast)
          rw [← hafter, huser] at hroles
          rw [hdone] at hthrows
          have hkept : (written d s).userRoles = s.userRoles := rfl
          rw [hkept] at hroles
          rw [if_neg (by simp), ← ownRoles_filter_iff]
          simp only [OwnRolesOnly, AllOrNothing, hroles, hthrows]
          exact ⟨fun h => h.1, fun h => ⟨h, fun herror => by cases herror⟩⟩
    · obtain ⟨hroles, hnothrow⟩ := decision_other hdecision (written d s)
      rw [← hafter] at hroles
      rw [← hthrows] at hnothrow
      simp only [OwnRolesOnly, AllOrNothing, RevokesOwn, hroles, hnothrow, hdecision]
      exact ⟨fun _ h => h.elim, fun _ => ⟨fun _ _ => rfl, fun h => by cases h⟩⟩

end Alone

section Runs

/-- The campaign is completed exactly when none of its items is pending. -/
def CompletedWhenDecided (reviewId : String) (s : ReviewStore) : Prop :=
  ∀ campaign ∈ s.campaigns, campaign.id = reviewId →
    (campaign.status = "COMPLETED" ↔ hasPending reviewId s.items = false)

theorem campaignAgrees_of_completedWhenDecided {reviewId : String} {s : ReviewStore}
    (h : CompletedWhenDecided reviewId s) : CampaignAgrees reviewId s [] where
  completed campaign hcampaign hid hstatus := (h campaign hcampaign hid).mp hstatus
  owed hnone := .inl fun campaign hcampaign hid => (h campaign hcampaign hid).mpr hnone
  completing hmem := absurd hmem List.not_mem_nil
  written _ hmem := absurd hmem List.not_mem_nil

/-- Single decisions stay with their review, and change all or nothing, exactly
when what they revoke is theirs to revoke; and decisions that decide, all at
once, leave the campaign completed exactly when nothing is pending. -/
theorem access_review_decisions {reviewId : String} {c₀ c : Config ReviewStore ReviewOp}
    (hidle : c₀.threads = []) (h₀ : CompletedWhenDecided reviewId c₀.shared)
    (hrun : reviewSystem.Run Decisive c₀ c) (hfinished : ∀ p ∈ c.threads, p.finished = true) :
    (∀ d s, (OwnRolesOnly d s ∧ AllOrNothing d s) ↔ RevokesOwn d s) ∧
      CompletedWhenDecided reviewId c.shared := by
  refine ⟨decision_own_iff, fun campaign hcampaign hid => ⟨fun hstatus => ?_, fun hnone => ?_⟩⟩
  all_goals
    obtain ⟨phases, hends, hagrees⟩ := (campaign_protocol reviewId).ended hidle hrun
      (campaignAgrees_of_completedWhenDecided h₀) hfinished
  · exact hagrees.completed campaign hcampaign hid hstatus
  · obtain hall | ⟨phase, hphase, hne⟩ := hagrees.owed hnone
    · exact hall campaign hcampaign hid
    · exact absurd (hends phase hphase) hne

end Runs

section Samples

def sampleItem (id campaignId userId : String) : ReviewItem where
  id := id
  campaignId := campaignId
  userId := userId
  decision := "PENDING"
  notes := none
  reviewerId := none
  reviewedAt := none

/-- A review of one company and a review of another, with an item each. -/
def sampleReviews : ReviewStore where
  now := 1700000000000
  accounts := []
  campaigns := [⟨"review-1", some "acme", "OPEN", none⟩, ⟨"review-2", some "globex", "OPEN", none⟩]
  items := [sampleItem "item-1" "review-1" "user-1", sampleItem "item-2" "review-2" "user-2"]
  userRoles := [("user-1", "role-1"), ("user-2", "role-2")]

instance (op : ReviewOp) (s : ReviewStore) : Decidable (Decisive op s) :=
  match op with
  | .updateItem _ _ _ _ _ => inferInstanceAs (Decidable (_ ≠ _))
  | .countSuperAdmins _ => inferInstanceAs (Decidable (_ = true))
  | .read | .selectItem _ | .deleteRoles _ | .countPending _ | .complete _ => isTrue trivial

theorem access_review_decisions_certified : ∃ s : ReviewStore,
    (s.campaigns.map (·.status) = ["COMPLETED", "OPEN"]) ∧ CompletedWhenDecided "review-1" s := by
  have hplay : (reviewSystem.play (fun _ _ => true) (fun op s => decide (Decisive op s))
      ⟨sampleReviews, []⟩
      [.start ⟨"review-1", "item-1", "CERTIFIED", none, sampleActor "admin-1"⟩, .run 0, .run 0,
        .run 0, .run 0]).any (fun c => c.threads.all (·.finished) &&
          decide (c.shared.campaigns.map (·.status) = ["COMPLETED", "OPEN"])) = true := by
    decide
  obtain ⟨c, hrun, hcheck⟩ := System.exists_run_of_play (fun _ _ _ => trivial)
    (fun _ _ h => of_decide_eq_true h) hplay
  rw [Bool.and_eq_true, decide_eq_true_eq, List.all_eq_true] at hcheck
  have h₀ : CompletedWhenDecided "review-1" sampleReviews := by
    intro campaign hcampaign hid
    simp only [sampleReviews, List.mem_cons, List.not_mem_nil, or_false] at hcampaign
    obtain rfl | rfl := hcampaign
    · decide
    · exact absurd hid (by decide)
  exact ⟨c.shared, hcheck.2, (access_review_decisions rfl h₀ hrun hcheck.1).2⟩

/-- An administrator of one company names an item of another company's review. -/
theorem foreign_roles_revoked : ¬ ∀ d s, OwnRolesOnly d s ∧ AllOrNothing d s := by
  intro hall
  have hown := (hall ⟨"review-1", "item-2", "REVOKE", none, sampleActor "admin-1"⟩ sampleReviews).1
    "user-2" (by decide)
  exact absurd hown (by decide)

end Samples
end FieldserviceIT.Admin
