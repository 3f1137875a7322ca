import FieldserviceIT.Admin.TemporaryAccess
import FieldserviceIT.Lib.Protocols

/-!
Runs of requests for access and their reviews. A review takes up a pending
request, may lead to one result, and closes the request. No two reviews of one
request may overlap for this to hold; and nobody but the reviewer can see to it
that the reviewer is not the one who gains from the review.
-/

namespace FieldserviceIT.Admin

open Common Lib

section Machine

/-- What a statement is to the one request it concerns. -/
inductive ReviewEvent where
  | take
  | result
  | close (decision : String)
  | giveUp
  deriving DecidableEq

inductive Progress where
  | taken
  | resulted
  deriving DecidableEq

/-- One review, step by step: `none` is no review at all. -/
def progress : Option Progress → ReviewEvent → Option (Option Progress)
  | none, .take => some (some .taken)
  | some .taken, .result => some (some .resulted)
  | some .taken, .close _ => some none
  | some .taken, .giveUp => some none
  | some .resulted, .close decision => if decision = "APPROVED" then some none else none
  | _, _ => none

/-- What is seen of one request. -/
structure ReviewView where
  status : Option String
  results : Nat
  underReview : Prop

/-- What an event does to the request it concerns; any other statement leaves
the request alone, or makes it. -/
def ReviewView.After (event : Option ReviewEvent) (v v' : ReviewView) : Prop :=
  match event with
  | none => v'.results = v.results ∧ (v'.underReview ↔ v.underReview) ∧
      (v'.status = v.status ∨ (v.status = none ∧ v'.status = some "PENDING"))
  | some .take => v'.results = v.results ∧ v'.underReview ∧ v'.status = v.status
  | some .result => v'.results = v.results + 1 ∧ (v'.underReview ↔ v.underReview) ∧
      v'.status = v.status
  | some (.close decision) => v'.results = v.results ∧ ¬ v'.underReview ∧
      v'.status = v.status.map fun _ => decision
  | some .giveUp => v'.results = v.results ∧ ¬ v'.underReview ∧ v'.status = v.status

/-- A request that nobody reviews has no result or was approved; one that is
taken up is pending. -/
def ReviewView.Consistent (v : ReviewView) (inside : Option Progress) : Prop :=
  match inside with
  | none => ¬ v.underReview ∧ (v.results = 0 ∨ (v.results = 1 ∧ v.status = some "APPROVED"))
  | some .taken => v.underReview ∧ v.results = 0 ∧ v.status = some "PENDING"
  | some .resulted => v.underReview ∧ v.results = 1 ∧ v.status = some "PENDING"

theorem ReviewView.Consistent.other {v v' : ReviewView} {inside : Option Progress}
    (h : v.Consistent inside) (hafter : v.After none v') : v'.Consistent inside := by
  obtain ⟨hresults, hunder, hstatus⟩ := hafter
  cases inside with
  | none =>
    refine ⟨mt hunder.mp h.1, ?_⟩
    obtain hzero | ⟨hone, happroved⟩ := h.2
    · exact .inl (hresults.trans hzero)
    · obtain hsame | ⟨hnone, -⟩ := hstatus
      · exact .inr ⟨hresults.trans hone, hsame.trans happroved⟩
      · cases hnone.symm.trans happroved
  | some phase =>
    cases phase with
    | taken =>
      obtain ⟨hin, hzero, hpending⟩ := h
      obtain hsame | ⟨hnone, -⟩ := hstatus
      · exact ⟨hunder.mpr hin, hresults.trans hzero, hsame.trans hpending⟩
      · cases hnone.symm.trans hpending
    | resulted =>
      obtain ⟨hin, hone, hpending⟩ := h
      obtain hsame | ⟨hnone, -⟩ := hstatus
      · exact ⟨hunder.mpr hin, hresults.trans hone, hsame.trans hpending⟩
      · cases hnone.symm.trans hpending

theorem ReviewView.Consistent.take {v v' : ReviewView} (h : v.Consistent none)
    (hpending : v.status = some "PENDING") (hafter : v.After (some .take) v') :
    v'.Consistent (some .taken) := by
  obtain ⟨hresults, hunder, hstatus⟩ := hafter
  refine ⟨hunder, ?_, hstatus.trans hpending⟩
  obtain hzero | ⟨-, happroved⟩ := h.2
  · exact hresults.trans hzero
  · rw [hpending] at happroved
    exact absurd (Option.some.inj happroved) (by decide)

theorem ReviewView.Consistent.go {v v' : ReviewView} {phase : Progress} {event : ReviewEvent}
    {next : Option Progress} (h : v.Consistent (some phase))
    (hprogress : progress (some phase) event = some next) (hafter : v.After (some event) v') :
    v'.Consistent next := by
  cases phase with
  | taken =>
    obtain ⟨hin, hzero, hpending⟩ := h
    cases event with
    | take => cases hprogress
    | result =>
      obtain rfl := Option.some.inj hprogress
      obtain ⟨hresults, hunder, hstatus⟩ := hafter
      exact ⟨hunder.mpr hin, by rw [hresults, hzero], hstatus.trans hpending⟩
    | close decision =>
      obtain rfl := Option.some.inj hprogress
      exact ⟨hafter.2.1, .inl (hafter.1.trans hzero)⟩
    | giveUp =>
      obtain rfl := Option.some.inj hprogress
      exact ⟨hafter.2.1, .inl (hafter.1.trans hzero)⟩
  | resulted =>
    obtain ⟨hin, hone, hpending⟩ := h
    cases event with
    | take => cases hprogress
    | result => cases hprogress
    | close decision =>
      obtain ⟨happroved, heq⟩ := Option.ite_none_right_eq_some.mp hprogress
      obtain rfl := Option.some.inj heq
      refine ⟨hafter.2.1, .inr ⟨hafter.1.trans hone, ?_⟩⟩
      rw [hafter.2.2, hpending, happroved]
      rfl
    | giveUp => cases hprogress

theorem ReviewView.Consistent.results {v : ReviewView} {inside : Option Progress}
    (h : v.Consistent inside) : v.results ≤ 1 ∧ (v.status = some "REJECTED" → v.results = 0) := by
  cases inside with
  | none =>
    obtain hzero | ⟨hone, happroved⟩ := h.2
    · exact ⟨by omega, fun _ => hzero⟩
    · refine ⟨by omega, fun hrejected => ?_⟩
      exact absurd (Option.some.inj (happroved.symm.trans hrejected)) (by decide)
  | some phase =>
    cases phase with
    | taken => exact ⟨by have := h.2.1; omega, fun _ => h.2.1⟩
    | resulted =>
      refine ⟨by have := h.2.1; omega, fun hrejected => ?_⟩
      exact absurd (Option.some.inj (h.2.2.symm.trans hrejected)) (by decide)

end Machine

section Refinement

variable (uuid : Nat → String)

def AccessOp.event (op : AccessOp) (s : AccessStore) : Option (RequestKey × ReviewEvent) :=
  match op with
  | .read | .insertAccessRequest _ => none
  | .insertElevation _ onBehalf =>
    if s.elevations.any fun other => other.id = uuid s.drawn then none
    else onBehalf.map fun request => ((.access, request.1.id), .result)
  | .takeElevation id actor =>
    if reviewsElevation s.elevations id actor then some ((.elevation, id), .take) else none
  | .takeAccessRequest id actor =>
    if reviewsAccessRequest s.accessRequests id actor then some ((.access, id), .take) else none
  | .grant _ _ seen => some ((.elevation, seen.id), .result)
  | .assignRole _ _ seen | .relate _ seen => some ((.access, seen.id), .result)
  | .closeElevation id decision _ _ => some ((.elevation, id), .close decision)
  | .closeAccessRequest id decision _ _ => some ((.access, id), .close decision)
  | .giveUp request => some (request, .giveUp)

def AccessOp.eventOn (key : RequestKey) (op : AccessOp) (s : AccessStore) : Option ReviewEvent :=
  (op.event uuid s).bind fun event => if event.1 = key then some event.2 else none

def statusOf (key : RequestKey) (s : AccessStore) : Option String :=
  match key.1 with
  | .elevation => (s.elevations.find? fun row => row.id = key.2).map (·.status)
  | .access => (s.accessRequests.find? fun row => row.id = key.2).map (·.status)

def resultsOf (key : RequestKey) (s : AccessStore) : Nat :=
  s.results.countP fun result => result.request = key

def viewOf (key : RequestKey) (s : AccessStore) : ReviewView :=
  ⟨statusOf key s, resultsOf key s, key ∈ s.underReview⟩

theorem status_append {α : Type} (idOf statusOf : α → String) (rows : List α) (id : String)
    {new : α} (hnew : statusOf new = "PENDING") :
    ((rows ++ [new]).find? fun row => idOf row = id).map statusOf =
        (rows.find? fun row => idOf row = id).map statusOf ∨
      ((rows.find? fun row => idOf row = id).map statusOf = none ∧
        ((rows ++ [new]).find? fun row => idOf row = id).map statusOf = some "PENDING") := by
  rw [List.find?_append]
  cases hfound : rows.find? fun row => idOf row = id with
  | some row => exact .inl rfl
  | none =>
    by_cases hid : idOf new = id
    · exact .inr ⟨rfl, by simp [hid, hnew]⟩
    · exact .inl (by simp [hid])

theorem status_update {α : Type} (idOf statusOf : α → String) {change : α → α} {decision : String}
    (hid : ∀ row, idOf (change row) = idOf row) (hstatus : ∀ row, statusOf (change row) = decision)
    (id key : String) (rows : List α) :
    ((updateRow idOf id change rows).find? fun row => idOf row = key).map statusOf =
      if key = id then ((rows.find? fun row => idOf row = key).map statusOf).map fun _ => decision
      else (rows.find? fun row => idOf row = key).map statusOf := by
  rw [find_updateRow hid]
  by_cases hkey : key = id
  · simp only [hkey, if_true, Option.map_map, Function.comp_def, hstatus]
  · simp only [hkey, if_false]

theorem resultsOf_record (key : RequestKey) (result : Result) (s : AccessStore) :
    resultsOf key (s.record result) = resultsOf key s + if result.request = key then 1 else 0 := by
  simp [resultsOf, AccessStore.record, List.countP_cons]

theorem mem_release (key request : RequestKey) (s : AccessStore) :
    key ∈ (s.release request).underReview ↔ key ∈ s.underReview ∧ key ≠ request := by
  simp [AccessStore.release]

def Checked (op : AccessOp) : Prop :=
  match op with
  | .insertAccessRequest row => row.status = "PENDING"
  | .insertElevation row _ => row.status = "PENDING"
  | .grant actorId _ seen => actorId ≠ seen.requestedById
  | .relate row seen => row.subjectId = seen.requesterId
  | _ => True

theorem after_of_eq {v v' : ReviewView} (hstatus : v'.status = v.status)
    (hresults : v'.results = v.results) (hunder : v'.underReview ↔ v.underReview) :
    v.After none v' :=
  ⟨hresults, hunder, .inl hstatus⟩

theorem after_record {key request : RequestKey} {s s₁ : AccessStore} {result : Result}
    (hrequest : result.request = request) (hstatus : statusOf key s₁ = statusOf key s)
    (hresults : s₁.results = s.results) (hunder : s₁.underReview = s.underReview) :
    (viewOf key s).After (if request = key then some .result else none)
      (viewOf key (s₁.record result)) := by
  subst hrequest
  have hcount : resultsOf key (s₁.record result) =
      resultsOf key s + if result.request = key then 1 else 0 := by
    rw [resultsOf_record, resultsOf, resultsOf, hresults]
  have hin : key ∈ (s₁.record result).underReview ↔ key ∈ s.underReview := by
    rw [AccessStore.record, hunder]
  by_cases hkey : result.request = key
  · rw [if_pos hkey] at hcount ⊢
    exact ⟨hcount, hin, hstatus⟩
  · rw [if_neg hkey] at hcount ⊢
    exact ⟨hcount, hin, .inl hstatus⟩

theorem after_release {key request : RequestKey} {s s' : AccessStore} {event : ReviewEvent}
    (hunder : s'.underReview = (s.release request).underReview) (hresults : s'.results = s.results)
    (hother : request ≠ key → statusOf key s' = statusOf key s)
    (hevent : request = key → (viewOf key s).After (some event) (viewOf key s')) :
    (viewOf key s).After (if request = key then some event else none) (viewOf key s') := by
  by_cases hkey : request = key
  · rw [if_pos hkey]
    exact hevent hkey
  · rw [if_neg hkey]
    refine after_of_eq (hother hkey) (by simp [viewOf, resultsOf, hresults]) ?_
    simp [viewOf, hunder, mem_release, Ne.symm hkey]

theorem not_mem_release (key : RequestKey) (s : AccessStore) :
    key ∉ (s.release key).underReview := fun h => ((mem_release key key s).mp h).2 rfl

theorem viewOf_exec (key : RequestKey) {op : AccessOp} (hpending : Checked op) (s : AccessStore) :
    (viewOf key s).After (op.eventOn uuid key s) (viewOf key (execAccess uuid op s)) := by
  cases op with
  | read => exact after_of_eq rfl rfl Iff.rfl
  | insertAccessRequest row =>
    simp only [AccessOp.eventOn, AccessOp.event, Option.bind_none, execAccess]
    split
    · exact after_of_eq rfl rfl Iff.rfl
    · refine ⟨rfl, Iff.rfl, ?_⟩
      obtain ⟨workflow, id⟩ := key
      cases workflow with
      | elevation => exact .inl rfl
      | access => exact status_append AccessRequest.id AccessRequest.status _ id hpending
  | insertElevation row onBehalf =>
    simp only [AccessOp.eventOn, AccessOp.event, execAccess]
    split
    · exact after_of_eq rfl rfl Iff.rfl
    · obtain ⟨workflow, id⟩ := key
      cases onBehalf with
      | none =>
        refine ⟨rfl, Iff.rfl, ?_⟩
        cases workflow with
        | elevation => exact status_append ElevationRequest.id ElevationRequest.status _ id hpending
        | access => exact .inl rfl
      | some behalf =>
        cases workflow with
        | elevation =>
          simp only [Option.map_some, Option.bind_some, Prod.mk.injEq, reduceCtorEq, false_and,
            if_false]
          refine ⟨?_, Iff.rfl,
            status_append ElevationRequest.id ElevationRequest.status _ id hpending⟩
          simp only [viewOf, resultsOf_record, Prod.mk.injEq, reduceCtorEq, false_and, if_false]
          rfl
        | access => exact after_record rfl rfl rfl rfl
  | takeElevation id actor =>
    simp only [AccessOp.eventOn, AccessOp.event, execAccess]
    by_cases htakes : reviewsElevation s.elevations id actor = true
    · rw [if_pos htakes, if_pos htakes, Option.bind_some]
      by_cases hkey : (Workflow.elevation, id) = key
      · rw [if_pos hkey, ← hkey]
        exact ⟨rfl, List.mem_cons_self, rfl⟩
      · rw [if_neg hkey]
        exact after_of_eq rfl rfl (by simp [viewOf, Ne.symm hkey])
    · rw [if_neg htakes, if_neg htakes]
      exact after_of_eq rfl rfl Iff.rfl
  | takeAccessRequest id actor =>
    simp only [AccessOp.eventOn, AccessOp.event, execAccess]
    by_cases htakes : reviewsAccessRequest s.accessRequests id actor = true
    · rw [if_pos htakes, if_pos htakes, Option.bind_some]
      by_cases hkey : (Workflow.access, id) = key
      · rw [if_pos hkey, ← hkey]
        exact ⟨rfl, List.mem_cons_self, rfl⟩
      · rw [if_neg hkey]
        exact after_of_eq rfl rfl (by simp [viewOf, Ne.symm hkey])
    · rw [if_neg htakes, if_neg htakes]
      exact after_of_eq rfl rfl Iff.rfl
  | grant actorId permissionId seen =>
    simp only [AccessOp.eventOn, AccessOp.event, Option.bind_some, execAccess]
    exact after_record rfl rfl rfl rfl
  | assignRole actorId roleId seen =>
    simp only [AccessOp.eventOn, AccessOp.event, Option.bind_some, execAccess]
    exact after_record rfl rfl rfl rfl
  | relate row seen =>
    simp only [AccessOp.eventOn, AccessOp.event, Option.bind_some, execAccess]
    exact after_record rfl rfl rfl rfl
  | closeElevation id decision actorId grantId =>
    have hstatus : ∀ id', statusOf (.elevation, id')
        (execAccess uuid (.closeElevation id decision actorId grantId) s) =
          if id' = id then (statusOf (.elevation, id') s).map fun _ => decision
          else statusOf (.elevation, id') s := by
      intro id'
      refine status_update ElevationRequest.id ElevationRequest.status ?_ ?_ id id' s.elevations
      · exact fun _ => rfl
      · exact fun _ => rfl
    simp only [AccessOp.eventOn, AccessOp.event, Option.bind_some]
    refine after_release rfl rfl (fun hne => ?_) (fun heq => ⟨rfl, ?_, ?_⟩)
    · obtain ⟨workflow, id'⟩ := key
      cases workflow with
      | elevation => rw [hstatus, if_neg fun h => hne (by rw [h])]
      | access => rfl
    · exact heq ▸ not_mem_release _ s
    · subst heq
      exact (hstatus id).trans (if_pos rfl)
  | closeAccessRequest id decision actorId resultRefId =>
    have hstatus : ∀ id', statusOf (.access, id')
        (execAccess uuid (.closeAccessRequest id decision actorId resultRefId) s) =
          if id' = id then (statusOf (.access, id') s).map fun _ => decision
          else statusOf (.access, id') s := by
      intro id'
      refine status_update AccessRequest.id AccessRequest.status ?_ ?_ id id' s.accessRequests
      · exact fun _ => rfl
      · exact fun _ => rfl
    simp only [AccessOp.eventOn, AccessOp.event, Option.bind_some]
    refine after_release rfl rfl (fun hne => ?_) (fun heq => ⟨rfl, ?_, ?_⟩)
    · obtain ⟨workflow, id'⟩ := key
      cases workflow with
      | elevation => rfl
      | access => rw [hstatus, if_neg fun h => hne (by rw [h])]
    · exact heq ▸ not_mem_release _ s
    · subst heq
      exact (hstatus id).trans (if_pos rfl)
  | giveUp request =>
    simp only [AccessOp.eventOn, AccessOp.event, Option.bind_some]
    refine after_release rfl rfl (fun _ => rfl) (fun heq => ⟨rfl, ?_, rfl⟩)
    exact heq ▸ not_mem_release _ s

end Refinement

section Discipline

variable (uuid : Nat → String)

theorem all_requestElevationThen {dto : ElevationDto} {actor : CurrentUser}
    {onBehalf : Option AccessRequest} {refuse : AccessProgram} {go : String → AccessProgram}
    (hrefuse : refuse.All Checked) (hgo : ∀ id, (go id).All Checked) :
    (requestElevationThen uuid dto actor onBehalf refuse go).All Checked := by
  refine Prog.all_step trivial fun s => ?_
  split
  · exact hrefuse
  · split
    · exact hrefuse
    · split
      · exact hrefuse
      · refine Prog.all_step rfl fun s' => ?_
        split
        · exact hrefuse
        · exact hgo _

theorem all_reviewElevation (id decision : String) (actor : CurrentUser) :
    (reviewElevation uuid id decision actor).All Checked := by
  refine Prog.all_step trivial fun s => ?_
  split
  · trivial
  · split
    · trivial
    · split
      · trivial
      · next hself =>
          split
          · refine Prog.all_step trivial fun s' => ?_
            split
            · exact Prog.all_step trivial fun _ => trivial
            · exact Prog.all_step (Ne.symm hself) fun _ => Prog.all_step trivial fun _ => trivial
          · exact Prog.all_step trivial fun _ => trivial

theorem all_createAccessRequest (dto : AccessDto) (actor : CurrentUser) :
    (createAccessRequest dto actor).All Checked := by
  unfold createAccessRequest
  split
  · trivial
  · split
    · trivial
    · exact Prog.all_step rfl fun _ => trivial

theorem all_reviewAccessRequest (id decision : String) (actor : CurrentUser) :
    (reviewAccessRequest uuid id decision actor).All Checked := by
  refine Prog.all_step trivial fun s => ?_
  split
  · trivial
  · simp only []
    split
    · trivial
    · split
      · exact all_requestElevationThen uuid (Prog.all_step trivial fun _ => trivial)
          fun _ => Prog.all_step trivial fun _ => trivial
      · split
        · split
          · exact Prog.all_step trivial fun _ => trivial
          · exact Prog.all_step rfl fun _ => Prog.all_step trivial fun _ => trivial
        · split
          · refine Prog.all_step trivial fun s' => ?_
            split
            · exact Prog.all_step trivial fun _ => trivial
            · split
              · exact Prog.all_step trivial fun _ => trivial
              · exact Prog.all_step trivial fun _ => Prog.all_step trivial fun _ => trivial
          · exact Prog.all_step trivial fun _ => trivial

theorem all_access (call : AccessCall) : (call.handler uuid).All Checked := by
  cases call with
  | requestElevation dto actor =>
    simp only [AccessCall.handler, requestElevation]
    refine all_requestElevationThen uuid ?_ fun id => ?_
    · trivial
    · trivial
  | reviewElevation id decision actor => exact all_reviewElevation uuid id decision actor
  | createAccessRequest dto actor => exact all_createAccessRequest dto actor
  | reviewAccessRequest id decision actor => exact all_reviewAccessRequest uuid id decision actor

end Discipline

section Exclusion

variable (uuid : Nat → String)

/-- No two reviews of one request overlap, and nobody reviews what was asked for
by them or is for them. -/
def Separated (op : AccessOp) (s : AccessStore) : Prop :=
  match op with
  | .takeElevation id actor =>
    reviewsElevation s.elevations id actor = true → (Workflow.elevation, id) ∉ s.underReview
  | .takeAccessRequest id actor =>
    reviewsAccessRequest s.accessRequests id actor = true → (Workflow.access, id) ∉ s.underReview
  | .grant actorId _ seen => actorId ≠ seen.userId ∧ actorId ≠ seen.filedBy
  | .assignRole actorId _ seen => actorId ≠ seen.requesterId
  | .relate row seen => row.createdById ≠ seen.requesterId
  | _ => True

def advance (key : RequestKey) (phase : Option Progress) (op : AccessOp) (s : AccessStore) :
    Option (Option Progress) :=
  (op.eventOn uuid key s).elim (some phase) (progress phase)

/-- The phase of a review of one request, to somebody who follows another. -/
def phaseOn (request key : RequestKey) (phase : Option Progress) : Option Progress :=
  if request = key then phase else none

/-- Each statement is one the review of the request can come to. -/
abbrev FollowsReviews (key : RequestKey) (allowed : AccessOp → AccessStore → Prop)
    (program : AccessProgram) (phase : Option Progress) : Prop :=
  program.Conforms allowed (advance uuid key) (fun _ => True) phase

variable {uuid} {key : RequestKey} {allowed : AccessOp → AccessStore → Prop}

theorem advance_of_none {phase : Option Progress} {op : AccessOp} {s : AccessStore}
    (h : op.event uuid s = none) : advance uuid key phase op s = some phase := by
  simp [advance, AccessOp.eventOn, h]

theorem advance_of_event {request : RequestKey} {event : ReviewEvent} {phase next : Option Progress}
    {op : AccessOp} {s : AccessStore} (h : op.event uuid s = some (request, event))
    (hprogress : progress phase event = some next) :
    advance uuid key (phaseOn request key phase) op s = some (phaseOn request key next) := by
  by_cases hkey : request = key
  · simp [advance, AccessOp.eventOn, h, hkey, phaseOn, hprogress]
  · simp [advance, AccessOp.eventOn, h, hkey, phaseOn]

theorem conforms_other {phase : Option Progress} {op : AccessOp} {next : AccessStore → AccessProgram}
    (h : ∀ s, op.event uuid s = none)
    (hnext : ∀ s, FollowsReviews uuid key allowed (next s) phase) :
    FollowsReviews uuid key allowed (.step op next) phase :=
  Prog.conforms_step (fun _ => phase) (fun s _ => advance_of_none (h s)) fun s _ => hnext s

theorem conforms_event {request : RequestKey} {event : ReviewEvent} {phase after : Option Progress}
    {op : AccessOp} {next : AccessStore → AccessProgram}
    (h : ∀ s, op.event uuid s = some (request, event)) (hprogress : progress phase event = some after)
    (hnext : ∀ s, FollowsReviews uuid key allowed (next s) (phaseOn request key after)) :
    FollowsReviews uuid key allowed (.step op next) (phaseOn request key phase) :=
  Prog.conforms_step (fun _ => phaseOn request key after) (fun s _ => advance_of_event (h s) hprogress)
    fun s _ => hnext s

theorem conforms_last {request : RequestKey} {event : ReviewEvent} {phase after : Option Progress}
    {op : AccessOp} {last : AccessProgram} (h : ∀ s, op.event uuid s = some (request, event))
    (hprogress : progress phase event = some after) (hlast : last = .done ∨ last = .fail) :
    FollowsReviews uuid key allowed (.step op fun _ => last) (phaseOn request key phase) := by
  refine conforms_event h hprogress fun s => ?_
  obtain rfl | rfl := hlast <;> trivial

theorem conforms_requestElevationThen {dto : ElevationDto} {actor : CurrentUser}
    {onBehalf : Option AccessRequest} {refuse : AccessProgram} {go : String → AccessProgram}
    {phase after : Option Progress}
    (hafter : ∀ row s, ¬ (s.elevations.any fun other => other.id = uuid s.drawn) = true →
      advance uuid key phase
        (.insertElevation row (onBehalf.map fun request => (request, actor.id))) s = some after)
    (hrefuse : FollowsReviews uuid key allowed refuse phase)
    (hgo : ∀ id, FollowsReviews uuid key allowed (go id) after) :
    FollowsReviews uuid key allowed (requestElevationThen uuid dto actor onBehalf refuse go)
      phase := by
  refine conforms_other (fun _ => rfl) fun s => ?_
  split
  · exact hrefuse
  · split
    · exact hrefuse
    · split
      · exact hrefuse
      · refine Prog.conforms_step
          (fun s' => if s'.elevations.any fun other => other.id = uuid s'.drawn then phase else after)
          (fun s' _ => ?_) (fun s' _ => ?_)
        · by_cases htaken : (s'.elevations.any fun other => other.id = uuid s'.drawn) = true
          · rw [if_pos htaken]
            exact advance_of_none (if_pos htaken)
          · rw [if_neg htaken]
            exact hafter _ s' htaken
        · by_cases htaken : (s'.elevations.any fun other => other.id = uuid s'.drawn) = true
          · rw [if_pos htaken, if_pos htaken]
            exact hrefuse
          · rw [if_neg htaken, if_neg htaken]
            exact hgo _

theorem conforms_reviewElevation (id decision : String) (actor : CurrentUser) :
    FollowsReviews uuid key allowed (reviewElevation uuid id decision actor) none := by
  have htake : ∀ s, advance uuid key none (.takeElevation id actor) s =
      some (if reviewsElevation s.elevations id actor = true then
        phaseOn (.elevation, id) key (some .taken) else none) := by
    intro s
    by_cases htakes : reviewsElevation s.elevations id actor = true
    · have hevent : (AccessOp.takeElevation id actor).event uuid s =
          some ((.elevation, id), .take) := if_pos htakes
      have hadvance : advance uuid key (phaseOn (.elevation, id) key none) (.takeElevation id actor) s =
          some (phaseOn (.elevation, id) key (some .taken)) := advance_of_event hevent rfl
      rw [phaseOn, ite_self] at hadvance
      rw [if_pos htakes, hadvance]
    · rw [if_neg htakes]
      exact advance_of_none (if_neg htakes)
  refine Prog.conforms_step _ (fun s _ => htake s) fun s _ => ?_
  cases hfound : scopedElevation s.elevations id actor with
  | none => trivial
  | some request =>
    simp only []
    by_cases hpending : request.status = "PENDING"
    · by_cases hself : request.requestedById = actor.id
      · simp only [hpending, hself, ne_eq, not_true, if_false, if_true]
        trivial
      · have htakes : reviewsElevation s.elevations id actor = true := by
          simp [reviewsElevation, hfound, hpending, hself]
        have hid : request.id = id := by
          simp only [scopedElevation, getScopedRow, Option.filter_eq_some_iff] at hfound
          simpa using List.find?_some hfound.1
        simp only [hpending, hself, htakes, ne_eq, not_true, if_false, if_true]
        by_cases happroved : decision = "APPROVED"
        · rw [if_pos happroved]
          refine conforms_other (fun _ => rfl) fun s' => ?_
          split
          · exact conforms_last (fun _ => rfl) rfl (.inr rfl)
          · subst hid
            refine conforms_event (fun _ => rfl) rfl fun s'' => ?_
            exact conforms_last (fun _ => rfl) (if_pos happroved) (.inl rfl)
        · rw [if_neg happroved]
          exact conforms_last (fun _ => rfl) rfl (.inl rfl)
    · simp only [hpending, ne_eq, not_false_eq_true, if_true]
      trivial

theorem conforms_reviewAccessRequest (id decision : String) (actor : CurrentUser) :
    FollowsReviews uuid key allowed (reviewAccessRequest uuid id decision actor) none := by
  have htake : ∀ s, advance uuid key none (.takeAccessRequest id actor) s =
      some (if reviewsAccessRequest s.accessRequests id actor = true then
        phaseOn (.access, id) key (some .taken) else none) := by
    intro s
    by_cases htakes : reviewsAccessRequest s.accessRequests id actor = true
    · have hevent : (AccessOp.takeAccessRequest id actor).event uuid s =
          some ((.access, id), .take) := if_pos htakes
      have hadvance : advance uuid key (phaseOn (.access, id) key none)
          (.takeAccessRequest id actor) s = some (phaseOn (.access, id) key (some .taken)) :=
        advance_of_event hevent rfl
      rw [phaseOn, ite_self] at hadvance
      rw [if_pos htakes, hadvance]
    · rw [if_neg htakes]
      exact advance_of_none (if_neg htakes)
  refine Prog.conforms_step _ (fun s _ => htake s) fun s _ => ?_
  cases hfound : scopedAccessRequest s.accessRequests id actor with
  | none => trivial
  | some request =>
    simp only []
    by_cases hpending : request.status = "PENDING"
    · have htakes : reviewsAccessRequest s.accessRequests id actor = true := by
        simp [reviewsAccessRequest, hfound, hpending]
      have hid : request.id = id := by
        simp only [scopedAccessRequest, getScopedRow, Option.filter_eq_some_iff] at hfound
        simpa using List.find?_some hfound.1
      subst hid
      have hrefuse : FollowsReviews uuid key allowed
          (.step (.giveUp (.access, request.id)) fun _ => .fail)
          (phaseOn (.access, request.id) key (some .taken)) :=
        conforms_last (fun _ => rfl) rfl (.inr rfl)
      have hclose : decision = "APPROVED" → ∀ resultRefId,
          FollowsReviews uuid key allowed
            (.step (.closeAccessRequest request.id decision actor.id resultRefId) fun _ => .done)
            (phaseOn (.access, request.id) key (some .resulted)) :=
        fun happroved resultRefId => conforms_last (fun _ => rfl) (if_pos happroved) (.inl rfl)
      simp only [hpending, htakes, ne_eq, not_true, if_false, if_true]
      split
      · next hkind =>
          rw [Bool.and_eq_true, decide_eq_true_eq] at hkind
          refine conforms_requestElevationThen (fun row s' hfree => ?_) hrefuse
            fun elevationId => hclose hkind.1 _
          exact advance_of_event (if_neg hfree) rfl
      · split
        · next hkind =>
            rw [Bool.and_eq_true, decide_eq_true_eq] at hkind
            split
            · exact hrefuse
            · exact conforms_event (fun _ => rfl) rfl fun s' => hclose hkind.1 _
        · split
          · next hkind =>
              rw [Bool.and_eq_true, Bool.and_eq_true, decide_eq_true_eq] at hkind
              refine conforms_other (fun _ => rfl) fun s' => ?_
              split
              · exact hrefuse
              · split
                · exact hrefuse
                · exact conforms_event (fun _ => rfl) rfl fun s'' => hclose hkind.1.1 _
          · exact conforms_last (fun _ => rfl) rfl (.inl rfl)
    · simp only [hpending, ne_eq, not_false_eq_true, if_true]
      trivial

theorem conforms_access (call : AccessCall) :
    FollowsReviews uuid key allowed (call.handler uuid) none := by
  cases call with
  | requestElevation dto actor =>
    simp only [AccessCall.handler, requestElevation]
    refine conforms_requestElevationThen
      (fun row s hfree => advance_of_none (if_neg hfree)) ?_ fun id => ?_
    · trivial
    · trivial
  | reviewElevation id decision actor => exact conforms_reviewElevation id decision actor
  | createAccessRequest dto actor =>
    simp only [AccessCall.handler, createAccessRequest]
    split
    · trivial
    · split
      · trivial
      · exact conforms_other (fun _ => rfl) fun _ => trivial
  | reviewAccessRequest id decision actor => exact conforms_reviewAccessRequest id decision actor

theorem of_progress_none {event : ReviewEvent} {phase : Option Progress}
    (h : progress none event = some phase) : event = .take ∧ phase = some .taken := by
  cases event with
  | take => exact ⟨rfl, (Option.some.inj h).symm⟩
  | result => cases h
  | close decision => cases h
  | giveUp => cases h

theorem pending_of_take {op : AccessOp} {s : AccessStore} (hallowed : Separated op s)
    (h : op.eventOn uuid key s = some .take) :
    (viewOf key s).status = some "PENDING" ∧ ¬ (viewOf key s).underReview := by
  simp only [AccessOp.eventOn, Option.bind_eq_some_iff, Option.ite_none_right_eq_some] at h
  obtain ⟨⟨request, event⟩, hevent, rfl, htake⟩ := h
  obtain rfl := Option.some.inj htake
  cases op with
  | takeElevation id actor =>
    obtain ⟨htakes, heq⟩ := Option.ite_none_right_eq_some.mp hevent
    obtain ⟨rfl, -⟩ := Prod.mk.inj (Option.some.inj heq)
    refine ⟨?_, hallowed htakes⟩
    simp only [reviewsElevation, scopedElevation, getScopedRow, Option.any_filter,
      Option.any_eq_true, Bool.and_eq_true, decide_eq_true_eq] at htakes
    obtain ⟨row, hrow, -, hpending, -⟩ := htakes
    simp only [viewOf, statusOf, hrow, Option.map_some, hpending]
  | takeAccessRequest id actor =>
    obtain ⟨htakes, heq⟩ := Option.ite_none_right_eq_some.mp hevent
    obtain ⟨rfl, -⟩ := Prod.mk.inj (Option.some.inj heq)
    refine ⟨?_, hallowed htakes⟩
    simp only [reviewsAccessRequest, scopedAccessRequest, getScopedRow, Option.any_filter,
      Option.any_eq_true, Bool.and_eq_true, decide_eq_true_eq] at htakes
    obtain ⟨row, hrow, -, hpending⟩ := htakes
    simp only [viewOf, statusOf, hrow, Option.map_some, hpending]
  | insertElevation row onBehalf =>
    simp only [AccessOp.event] at hevent
    split at hevent
    · cases hevent
    · cases onBehalf <;> simp at hevent
  | _ => simp [AccessOp.event] at hevent

variable (uuid key)

theorem exclusive_reviews : Exclusive (accessSystem uuid)
    (fun op s => Separated op s ∧ Checked op) (advance uuid key)
    (fun s inside => (viewOf key s).Consistent inside) where
  handler s call _ := conforms_access call
  full op s x y hinv hallowed hadvance := by
    cases hevent : op.eventOn uuid key s with
    | none => simp [advance, hevent] at hadvance
    | some event =>
      simp only [advance, hevent, Option.elim_some] at hadvance
      obtain ⟨rfl, -⟩ := of_progress_none hadvance
      have hfree := (pending_of_take hallowed.1 hevent).2
      cases x with
      | taken => exact hfree hinv.1
      | resulted => exact hfree hinv.1
  enter op s x hinv hallowed hadvance := by
    have hview := viewOf_exec uuid key hallowed.2 s
    cases hevent : op.eventOn uuid key s with
    | none => simp [advance, hevent] at hadvance
    | some event =>
      simp only [advance, hevent, Option.elim_some] at hadvance
      obtain ⟨rfl, hphase⟩ := of_progress_none hadvance
      obtain rfl := Option.some.inj hphase
      rw [hevent] at hview
      exact hinv.take (pending_of_take hallowed.1 hevent).1 hview
  outside op s inside hinv hallowed hadvance := by
    have hview := viewOf_exec uuid key hallowed.2 s
    cases hevent : op.eventOn uuid key s with
    | none =>
      rw [hevent] at hview
      exact hinv.other hview
    | some event =>
      simp only [advance, hevent, Option.elim_some] at hadvance
      obtain ⟨-, hphase⟩ := of_progress_none hadvance
      cases hphase
  inside op s x next hinv hallowed hadvance := by
    have hview := viewOf_exec uuid key hallowed.2 s
    cases hevent : op.eventOn uuid key s with
    | none =>
      simp only [advance, hevent, Option.elim_none, Option.some.injEq] at hadvance
      obtain rfl := hadvance
      rw [hevent] at hview
      exact hinv.other hview
    | some event =>
      simp only [advance, hevent, Option.elim_some] at hadvance
      rw [hevent] at hview
      exact hinv.go hadvance hview
  tick s inside hinv := hinv

end Exclusion

section Runs

variable (uuid : Nat → String)

/-- Nobody has approved what they had asked for or gain from, and every new grant
and role comes from a review. -/
structure Accounted (before s : AccessStore) : Prop where
  separated : ∀ result ∈ s.results, result.kind ≠ .elevationRequest →
    result.approver ≠ result.beneficiary ∧ result.approver ∉ result.requesters
  grants : ∀ grant ∈ s.grants, grant ∈ before.grants ∨ ∃ result ∈ s.results,
    result.kind = .temporaryGrant ∧ result.beneficiary = grant.userId ∧
      result.approver = grant.grantedById
  roles : ∀ assignment ∈ s.userRoles, assignment ∈ before.userRoles ∨ ∃ result ∈ s.results,
    result.kind = .role ∧ result.beneficiary = assignment.1

theorem accounted_record {before s s₁ : AccessStore} {result : Result} (h : Accounted before s)
    (hresults : s₁.results = s.results)
    (hseparated : result.kind ≠ .elevationRequest →
      result.approver ≠ result.beneficiary ∧ result.approver ∉ result.requesters)
    (hgrants : ∀ grant ∈ s₁.grants, grant ∈ s.grants ∨ (result.kind = .temporaryGrant ∧
      result.beneficiary = grant.userId ∧ result.approver = grant.grantedById))
    (hroles : ∀ assignment ∈ s₁.userRoles, assignment ∈ s.userRoles ∨
      (result.kind = .role ∧ result.beneficiary = assignment.1)) :
    Accounted before (s₁.record result) := by
  constructor
  · intro other hother
    obtain rfl | hother := List.mem_cons.mp hother
    · exact hseparated
    · exact h.separated other (hresults ▸ hother)
  · intro grant hgrant
    obtain hold | hnew := hgrants grant hgrant
    · obtain hbefore | ⟨other, hother, hfrom⟩ := h.grants grant hold
      · exact .inl hbefore
      · exact .inr ⟨other, List.mem_cons_of_mem _ (hresults ▸ hother), hfrom⟩
    · exact .inr ⟨result, List.mem_cons_self, hnew⟩
  · intro assignment hassignment
    obtain hold | hnew := hroles assignment hassignment
    · obtain hbefore | ⟨other, hother, hfrom⟩ := h.roles assignment hold
      · exact .inl hbefore
      · exact .inr ⟨other, List.mem_cons_of_mem _ (hresults ▸ hother), hfrom⟩
    · exact .inr ⟨result, List.mem_cons_self, hnew⟩

theorem accounted_exec {before s : AccessStore} {op : AccessOp} (h : Accounted before s)
    (hallowed : Separated op s) (hchecked : Checked op) :
    Accounted before (execAccess uuid op s) := by
  cases op with
  | insertAccessRequest row =>
    simp only [execAccess]
    split
    · exact ⟨h.separated, h.grants, h.roles⟩
    · exact ⟨h.separated, h.grants, h.roles⟩
  | insertElevation row onBehalf =>
    simp only [execAccess]
    split
    · exact ⟨h.separated, h.grants, h.roles⟩
    · cases onBehalf with
      | none => exact ⟨h.separated, h.grants, h.roles⟩
      | some behalf =>
        exact accounted_record h rfl (fun hkind => absurd rfl hkind) (fun _ hold => .inl hold)
          fun _ hold => .inl hold
  | takeElevation id actor =>
    simp only [execAccess]
    split
    · exact ⟨h.separated, h.grants, h.roles⟩
    · exact h
  | takeAccessRequest id actor =>
    simp only [execAccess]
    split
    · exact ⟨h.separated, h.grants, h.roles⟩
    · exact h
  | grant actorId permissionId seen =>
    refine accounted_record h rfl (fun _ => ⟨hallowed.1, ?_⟩) (fun grant hgrant => ?_)
      fun _ hold => .inl hold
    · simp only [List.mem_cons, List.not_mem_nil, or_false, not_or]
      exact ⟨hchecked, hallowed.2⟩
    · obtain hold | hnew := List.mem_append.mp hgrant
      · exact .inl hold
      · obtain rfl := List.mem_singleton.mp hnew
        exact .inr ⟨rfl, rfl, rfl⟩
  | assignRole actorId roleId seen =>
    refine accounted_record h rfl (fun _ => ⟨hallowed, ?_⟩) (fun _ hold => .inl hold)
      fun assignment hassignment => ?_
    · exact fun hmem => hallowed (List.mem_singleton.mp hmem)
    · simp only [] at hassignment
      split at hassignment
      · exact .inl hassignment
      · obtain hold | hnew := List.mem_append.mp hassignment
        · exact .inl hold
        · obtain rfl := List.mem_singleton.mp hnew
          exact .inr ⟨rfl, rfl⟩
  | relate row seen =>
    refine accounted_record h rfl (fun _ => ⟨?_, ?_⟩) (fun _ hold => .inl hold)
      fun _ hold => .inl hold
    · exact fun heq => hallowed (heq.trans hchecked)
    · exact fun hmem => hallowed (List.mem_singleton.mp hmem)
  | read => exact h
  | closeElevation id decision actorId grantId => exact ⟨h.separated, h.grants, h.roles⟩
  | closeAccessRequest id decision actorId resultRefId => exact ⟨h.separated, h.grants, h.roles⟩
  | giveUp request => exact ⟨h.separated, h.grants, h.roles⟩

/-- In a run without overlapping reviews of one request, and in which nobody
reviews what they have asked for or gain from: every new grant and role was
approved by somebody else, each request leads to one result at most, and a
rejected one to none. -/
theorem access_separated {c₀ c : Config AccessStore AccessOp} (hidle : c₀.threads = [])
    (hnone : c₀.shared.results = []) (hfree : c₀.shared.underReview = [])
    (hrun : (accessSystem uuid).Run Separated c₀ c) :
    Accounted c₀.shared c.shared ∧ ∀ key, resultsOf key c.shared ≤ 1 ∧
      (statusOf key c.shared = some "REJECTED" → resultsOf key c.shared = 0) := by
  have hall : ∀ (s : AccessStore) (call : AccessCall), (accessSystem uuid).sendable s call →
      ((accessSystem uuid).handler call).All Checked := fun _ call _ => all_access uuid call
  constructor
  · refine System.keeps_of_all hall (fun op s hinv hallowed hchecked => ?_) (fun s hinv => ?_) hidle
      hrun ?_
    · exact accounted_exec uuid hinv hallowed hchecked
    · exact ⟨hinv.separated, hinv.grants, hinv.roles⟩
    · refine ⟨fun result hresult => ?_, fun _ hgrant => .inl hgrant, fun _ hrole => .inl hrole⟩
      rw [hnone] at hresult
      exact absurd hresult List.not_mem_nil
  · intro key
    have h₀ : (viewOf key c₀.shared).Consistent none := by
      refine ⟨?_, .inl ?_⟩
      · simp [viewOf, hfree]
      · simp [viewOf, resultsOf, hnone]
    obtain ⟨inside, hinside⟩ :=
      (exclusive_reviews uuid key).run hidle (System.run_good hall hidle hrun) h₀
    exact hinside.results

end Runs

section Samples

/-- A role of the company and a permission, and nothing requested yet. -/
def sampleAccess : AccessStore where
  now := 1700000000000
  drawn := 0
  accounts :=
    [{ id := "user-1", companyId := some "acme", role := .technician, isActive := true
       mfaEnabled := false, isBreakGlass := false, breakGlassReason := none, authVersion := 0
       isDeleted := false }]
  permissions := [("permission-1", "tickets.delete")]
  roles := [⟨"role-1", some "acme", false⟩]
  elevations := []
  accessRequests := []
  grants := []
  userRoles := []
  relationships := []
  underReview := []
  results := []

instance (op : AccessOp) (s : AccessStore) : Decidable (Separated op s) :=
  match op with
  | .takeElevation _ _ | .takeAccessRequest _ _ => inferInstanceAs (Decidable (_ → _ ∉ _))
  | .grant _ _ _ => inferInstanceAs (Decidable (_ ∧ _))
  | .assignRole _ _ _ | .relate _ _ => inferInstanceAs (Decidable (_ ≠ _))
  | .read | .insertAccessRequest _ | .insertElevation _ _ | .closeElevation _ _ _ _
  | .closeAccessRequest _ _ _ _ | .giveUp _ => isTrue trivial

def sampleElevation : AccessCall :=
  .requestElevation
    { userId := some "user-1", permissionSlug := some "tickets.delete", scopeType := none
      scopeValue := none, reason := some "cleanup", requestedMinutes := none }
    (sampleActor "admin-1")

/-- A permission is requested for somebody else and approved by a third person. -/
theorem access_separated_grant : ∃ s : AccessStore, s.grants.length = 1 ∧
    Accounted sampleAccess s ∧ ∀ key, resultsOf key s ≤ 1 ∧
      (statusOf key s = some "REJECTED" → resultsOf key s = 0) := by
  have hplay : ((accessSystem sampleUuid).play (fun _ _ => true)
      (fun op s => decide (Separated op s)) ⟨sampleAccess, []⟩
      [.start sampleElevation, .run 0, .run 0,
        .start (.reviewElevation "xx" "APPROVED" (sampleActor "admin-2")), .run 1, .run 1, .run 1,
        .run 1]).any (fun c => decide (c.shared.grants.length = 1)) = true := by
    decide
  obtain ⟨c, hrun, hcheck⟩ := System.exists_run_of_play (fun _ _ _ => trivial)
    (fun _ _ h => of_decide_eq_true h) hplay
  exact ⟨c.shared, of_decide_eq_true hcheck, access_separated sampleUuid rfl rfl rfl hrun⟩

def sampleRoleRequest : AccessCall :=
  .createAccessRequest
    { requestType := some "role", targetId := none, permissionSlug := none
      roleId := some "role-1", resourceType := none, resourceId := none
      relationshipName := none, requestedMinutes := none, reason := some "cover" }
    (sampleActor "admin-1")

/-- Somebody asks for a role and approves it. -/
theorem role_approved_by_requester : ¬ ∀ (uuid : Nat → String) (c₀ c : Config AccessStore AccessOp),
    c₀.threads = [] → c₀.shared.results = [] → c₀.shared.underReview = [] →
    (accessSystem uuid).Run (fun _ _ => True) c₀ c →
    Accounted c₀.shared c.shared ∧ ∀ key, resultsOf key c.shared ≤ 1 ∧
      (statusOf key c.shared = some "REJECTED" → resultsOf key c.shared = 0) := by
  have hplay : ((accessSystem sampleUuid).play (fun _ _ => true) (fun _ _ => true)
      ⟨sampleAccess, []⟩
      [.start sampleRoleRequest, .run 0,
        .start (.reviewAccessRequest "xx" "APPROVED" (sampleActor "admin-1")), .run 1, .run 1,
        .run 1, .run 1]).any (fun c => c.shared.results.any fun result =>
          result.kind = .role && result.approver = result.beneficiary) = true := by
    decide
  obtain ⟨c, hrun, hcheck⟩ := System.exists_run_of_play (fun _ _ _ => trivial)
    (fun _ _ _ => trivial) hplay
  intro hall
  obtain ⟨haccounted, -⟩ := hall sampleUuid _ c rfl rfl rfl hrun
  obtain ⟨result, hresult, hsame⟩ := List.any_eq_true.mp hcheck
  simp only [Bool.and_eq_true, decide_eq_true_eq] at hsame
  obtain ⟨hne, -⟩ := haccounted.separated result hresult (by rw [hsame.1]; decide)
  exact hne hsame.2

end Samples
end FieldserviceIT.Admin
