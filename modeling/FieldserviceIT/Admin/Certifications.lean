import FieldserviceIT.Admin.CertificationSchedule
import FieldserviceIT.Lib.Protocols

/-!
Recurring certifications once in a period. A run owns the campaign it has created until it moves the
date of the source on; as long as no campaign is created for a due date that has one, there is one
run at a time between the two, the date it moves on from is its own, and the campaign is complete.
-/

namespace FieldserviceIT.Admin.Certification

open Common Lib

variable (P : CertificationPlatform)

section Law

/-- There is an item for everybody who was active when the users were selected. -/
def Complete (s : ReviewStore) (campaign : Nat) : Prop :=
  ∃ users, (campaign, users) ∈ s.selections ∧ ∀ user ∈ users, ∃ item ∈ s.items,
    item.key = (campaign, user)

/-- No due date has two campaigns, and each one that was moved on from has one, with its items. -/
structure OncePerPeriod (s : ReviewStore) : Prop where
  once : (s.followUps.map FollowUp.key).Nodup
  served : ∀ date ∈ s.passed, ∃ followUp ∈ s.followUps,
    followUp.key = date ∧ Complete s followUp.campaign

def Unserved : ReviewOp → ReviewStore → Prop
  | .insertFollowUp source, s => ∀ followUp ∈ s.followUps, followUp.key ≠ (source.id, source.due)
  | .read, _ | .alert _, _ | .insertCampaign _, _ | .selectDue, _ | .selectUsers .., _
  | .insertItem .., _ | .advance .., _ | .decide .., _ | .complete _, _ | .putUser _, _ => True

end Law

section Phases

/-- How far a run has come. -/
inductive Phase where
  | idle
  | ready (sources : List AccessReviewCampaign)
  | selecting (source : AccessReviewCampaign) (campaign : Nat) (rest : List AccessReviewCampaign)
  | filling (source : AccessReviewCampaign) (campaign : Nat) (left : List String)
      (rest : List AccessReviewCampaign)

def Phase.owns : Phase → Option Nat
  | selecting _ campaign _ | filling _ campaign _ _ => some campaign
  | idle | ready _ => none

def certifying : Phase → ReviewOp → ReviewStore → Option Phase
  | .idle, .selectDue, s => some (.ready (dueSources s))
  | .idle, .insertFollowUp _, _ | .idle, .advance .., _ => none
  | .idle, _, _ => some .idle
  | .ready (source :: rest), .insertFollowUp source', s =>
    if source' = source then some (.selecting source s.campaigns.drawn rest) else none
  | .selecting source campaign rest, .selectUsers campaign' companyId, s =>
    if campaign' = campaign then some (.filling source campaign (activeUsers companyId s) rest)
    else none
  | .filling source campaign (user :: left) rest, .insertItem campaign' user', _ =>
    if campaign' = campaign ∧ user' = user then some (.filling source campaign left rest) else none
  | .filling source _ [] rest, .advance id _, _ => if id = source.id then some (.ready rest) else none
  | _, _, _ => none

variable {P} {s s' : ReviewStore}

theorem conforms_fill_idle (campaign : Nat) (users : List String) :
    (fill campaign users .done).Conforms Unserved certifying (fun _ => True) .idle := by
  induction users with
  | nil => trivial
  | cons user users ih => exact fun s _ => ⟨.idle, rfl, ih⟩

theorem conforms_fill {source : AccessReviewCampaign} {campaign : Nat}
    {rest : List AccessReviewCampaign} {last : ReviewProgram} (users : List String)
    (hlast : last.Conforms Unserved certifying (fun _ => True) (.filling source campaign [] rest)) :
    (fill campaign users last).Conforms Unserved certifying (fun _ => True)
      (.filling source campaign users rest) := by
  induction users with
  | nil => exact hlast
  | cons user users ih => exact fun s _ => ⟨.filling source campaign users rest, if_pos ⟨rfl, rfl⟩, ih⟩

theorem conforms_certify (sources : List AccessReviewCampaign) :
    (certify sources).Conforms Unserved certifying (fun _ => True) (.ready sources) := by
  induction sources with
  | nil => trivial
  | cons source sources ih =>
    refine Prog.conforms_step (fun s => .selecting source s.campaigns.drawn sources)
      (fun s _ => if_pos rfl) fun s _ => ?_
    refine Prog.conforms_step
      (fun s' => .filling source s.campaigns.drawn (activeUsers source.companyId s') sources)
      (fun s' _ => if_pos rfl) fun s' _ => ?_
    apply conforms_fill
    exact Prog.conforms_step (fun _ => .ready sources) (fun _ _ => if_pos rfl) fun _ _ => ih

theorem conforms_remind (campaigns : List AccessReviewCampaign) {rest : ReviewProgram}
    (hrest : rest.Conforms Unserved certifying (fun _ => True) .idle) :
    (remind campaigns rest).Conforms Unserved certifying (fun _ => True) .idle := by
  induction campaigns with
  | nil => exact hrest
  | cons row campaigns ih => exact fun s _ => ⟨.idle, rfl, ih⟩

theorem conforms_handler (request : ReviewRequest) :
    (request.handler P).Conforms Unserved certifying (fun _ => True) .idle := by
  cases request with
  | schedule =>
    refine fun s _ => ⟨.idle, rfl, conforms_remind _ ?_⟩
    exact fun s' _ => ⟨.ready (dueSources s'), rfl, conforms_certify _⟩
  | createAccessReview dto actor =>
    refine fun s _ => ⟨.idle, rfl, fun s' _ => ⟨.idle, rfl, fun s'' _ => ⟨.idle, rfl, ?_⟩⟩⟩
    exact conforms_fill_idle _ _
  | decide campaignId userId decision actor =>
    refine fun s _ => ⟨.idle, rfl, ?_⟩
    beta_reduce
    split
    · trivial
    · refine fun s' _ => ⟨.idle, rfl, fun s'' _ => ⟨.idle, rfl, ?_⟩⟩
      beta_reduce
      split
      · trivial
      · exact fun _ _ => ⟨.idle, rfl, trivial⟩
  | putUser user => exact fun _ _ => ⟨.idle, rfl, trivial⟩

end Phases

section Invariant

/-- The due date that was read is the one that is still there, or has been moved on from. -/
def Known (s : ReviewStore) (source : AccessReviewCampaign) : Prop :=
  nextRunOf source.id s = some source.due ∨ (source.id, source.due) ∈ s.passed

structure Making (s : ReviewStore) (source : AccessReviewCampaign) (campaign : Nat) : Prop where
  followUp : ⟨source.id, source.due, campaign⟩ ∈ s.followUps
  current : nextRunOf source.id s = some source.due

def Fits (s : ReviewStore) : Phase → Prop
  | .idle => True
  | .ready sources => ∀ source ∈ sources, Known s source
  | .selecting source campaign rest => Making s source campaign ∧ ∀ source ∈ rest, Known s source
  | .filling source campaign left rest =>
    (Making s source campaign ∧ ∀ source ∈ rest, Known s source) ∧
      ∃ users, (campaign, users) ∈ s.selections ∧ ∀ user ∈ users,
        user ∈ left ∨ ∃ item ∈ s.items, item.key = (campaign, user)

def Apart (phase other : Phase) : Prop :=
  ∀ campaign, phase.owns = some campaign → other.owns ≠ some campaign

structure Kept (s : ReviewStore) : Prop extends OncePerPeriod s where
  current : ∀ followUp ∈ s.followUps,
    followUp.key ∈ s.passed ∨ nextRunOf followUp.source s = some followUp.due
  below : ∀ followUp ∈ s.followUps, followUp.campaign < s.campaigns.drawn

/-- What the statements of a run that is not the owner leave as it is. -/
structure Onward (s s' : ReviewStore) : Prop where
  followUps : ∀ followUp ∈ s.followUps, followUp ∈ s'.followUps
  selections : ∀ selection ∈ s.selections, selection ∈ s'.selections
  items : ∀ item ∈ s.items, ∃ item' ∈ s'.items, item'.key = item.key
  passed : ∀ date ∈ s.passed, date ∈ s'.passed
  drawn : s.campaigns.drawn ≤ s'.campaigns.drawn

/-- The dates stay, too. -/
structure Steady (s s' : ReviewStore) : Prop extends Onward s s' where
  dates : ∀ id date, nextRunOf id s = some date → nextRunOf id s' = some date

variable {P} {s s' : ReviewStore}

theorem Complete.onward {campaign : Nat} (h : Complete s campaign) (honward : Onward s s') :
    Complete s' campaign := by
  obtain ⟨users, hselection, hitems⟩ := h
  refine ⟨users, honward.selections _ hselection, fun user huser => ?_⟩
  obtain ⟨item, hitem, hkey⟩ := hitems user huser
  obtain ⟨item', hitem', hkey'⟩ := honward.items item hitem
  exact ⟨item', hitem', hkey'.trans hkey⟩

theorem Known.steady {source : AccessReviewCampaign} (h : Known s source) (hsteady : Steady s s') :
    Known s' source :=
  h.imp (hsteady.dates _ _) (hsteady.passed _)

theorem Making.steady {source : AccessReviewCampaign} {campaign : Nat}
    (h : Making s source campaign) (hsteady : Steady s s') : Making s' source campaign :=
  ⟨hsteady.followUps _ h.followUp, hsteady.dates _ _ h.current⟩

theorem Fits.steady {phase : Phase} (h : Fits s phase) (hsteady : Steady s s') : Fits s' phase := by
  cases phase with
  | idle => trivial
  | ready sources => exact fun source hsource => (h source hsource).steady hsteady
  | selecting source campaign rest =>
    exact ⟨h.1.steady hsteady, fun source hsource => (h.2 source hsource).steady hsteady⟩
  | filling source campaign left rest =>
    obtain ⟨⟨hmaking, hrest⟩, users, hselection, hitems⟩ := h
    refine ⟨⟨hmaking.steady hsteady, fun source hsource => (hrest source hsource).steady hsteady⟩,
      users, hsteady.selections _ hselection, fun user huser => (hitems user huser).imp_right ?_⟩
    rintro ⟨item, hitem, hkey⟩
    obtain ⟨item', hitem', hkey'⟩ := hsteady.items item hitem
    exact ⟨item', hitem', hkey'.trans hkey⟩

theorem Kept.steady (h : Kept s) (hsteady : Steady s s') (hfollowUps : s'.followUps = s.followUps)
    (hpassed : s'.passed = s.passed) : Kept s' := by
  refine ⟨⟨hfollowUps ▸ h.once, fun date hdate => ?_⟩, fun followUp hmem => ?_,
    fun followUp hmem => ?_⟩
  · rw [hpassed] at hdate
    obtain ⟨followUp, hmem, hkey, hcomplete⟩ := h.served date hdate
    exact ⟨followUp, hsteady.followUps _ hmem, hkey, hcomplete.onward hsteady.toOnward⟩
  · rw [hfollowUps] at hmem
    exact (h.current followUp hmem).imp (hsteady.passed _) (hsteady.dates _ _)
  · rw [hfollowUps] at hmem
    exact Nat.lt_of_lt_of_le (h.below followUp hmem) hsteady.drawn

end Invariant

section Statements

variable {P} {s : ReviewStore}

theorem id_ended (now : Nat) (row : AccessReviewCampaign) : (row.ended now).id = row.id :=
  rfl

theorem id_advanced (months : Nat) (row : AccessReviewCampaign) :
    (row.advanced P months).id = row.id :=
  rfl

theorem nextRunOf_insertRow {row : Nat → AccessReviewCampaign} (hid : ∀ id, (row id).id = id)
    {id date : Nat} (h : nextRunOf id s = some date) :
    nextRunOf id (insertRow row hid s) = some date := by
  obtain ⟨campaign, hfound, hdate⟩ := Option.bind_eq_some_iff.mp h
  have hrow : findCampaign id (insertRow row hid s) = some campaign := by
    change (s.campaigns.rows ++ [row s.campaigns.drawn]).find? _ = _
    rw [List.find?_append, show s.campaigns.rows.find? _ = some campaign from hfound]
    rfl
  rw [nextRunOf, hrow]
  exact hdate

theorem nextRunOf_modifyRow (id : Nat) {change : AccessReviewCampaign → AccessReviewCampaign}
    (hid : ∀ row, (change row).id = row.id) (id' : Nat) :
    nextRunOf id' (modifyRow id change hid s) =
      if id' = id then (findCampaign id s).bind fun row => (change row).nextRunAt
      else nextRunOf id' s := by
  have hfind : findCampaign id' (modifyRow id change hid s) =
      if id' = id then (findCampaign id' s).map change else findCampaign id' s :=
    find_updateWhere (fun row hrow => (hid row).trans hrow) id' s.campaigns.rows
  rw [nextRunOf, hfind]
  split
  next h => rw [h, Option.bind_map]; rfl
  next => rfl

theorem nextRunOf_complete (id id' : Nat) :
    nextRunOf id' (execReview P (.complete id) s) = nextRunOf id' s := by
  refine (nextRunOf_modifyRow id (fun row => id_ended s.now row) id').trans ?_
  split
  next h => rw [h]; rfl
  next => rfl

theorem mem_withItem (item : AccessReviewItem) (items : List AccessReviewItem) :
    ∃ other ∈ withItem item items, other.key = item.key := by
  rw [withItem]
  split
  next hany =>
    obtain ⟨other, hother, hkey⟩ := List.any_eq_true.mp hany
    exact ⟨other, hother, of_decide_eq_true hkey⟩
  next => exact ⟨item, List.mem_append_right _ (List.mem_singleton_self item), rfl⟩

theorem subset_withItem (item : AccessReviewItem) {items : List AccessReviewItem} :
    ∀ other ∈ items, other ∈ withItem item items := by
  intro other hother
  rw [withItem]
  split
  · exact hother
  · exact List.mem_append_left _ hother

theorem key_decided (campaignId : Nat) (userId decision : String) {items : List AccessReviewItem} :
    ∀ item ∈ items, ∃ item' ∈ decided campaignId userId decision items, item'.key = item.key := by
  intro item hitem
  have hmem : item.key ∈ (decided campaignId userId decision items).map AccessReviewItem.key := by
    have hmap : (decided campaignId userId decision items).map AccessReviewItem.key =
        items.map AccessReviewItem.key := map_updateWhere_key fun _ _ => rfl
    rw [hmap]
    exact List.mem_map_of_mem hitem
  obtain ⟨item', hitem', hkey⟩ := List.mem_map.mp hmem
  exact ⟨item', hitem', hkey⟩

theorem onward_refl (s : ReviewStore) : Onward s s :=
  ⟨fun _ h => h, fun _ h => h, fun item h => ⟨item, h, rfl⟩, fun _ h => h, Nat.le_refl _⟩

/-- The statements that neither create a follow-up nor move a date on. -/
def Ordinary : ReviewOp → Prop
  | .insertFollowUp _ | .advance .. => False
  | .read | .alert _ | .insertCampaign _ | .selectDue | .selectUsers .. | .insertItem ..
  | .decide .. | .complete _ | .putUser _ => True

theorem onward_exec (op : ReviewOp) : Onward s (execReview P op s) := by
  have hrefl := onward_refl s
  cases op with
  | read | selectDue | alert | putUser | complete =>
    exact ⟨hrefl.followUps, hrefl.selections, hrefl.items, hrefl.passed, hrefl.drawn⟩
  | insertCampaign =>
    exact ⟨hrefl.followUps, hrefl.selections, hrefl.items, hrefl.passed, Nat.le_succ _⟩
  | insertFollowUp =>
    exact ⟨fun _ h => List.mem_cons_of_mem _ h, hrefl.selections, hrefl.items, hrefl.passed,
      Nat.le_succ _⟩
  | selectUsers =>
    exact ⟨hrefl.followUps, fun _ h => List.mem_cons_of_mem _ h, hrefl.items, hrefl.passed,
      hrefl.drawn⟩
  | insertItem =>
    exact ⟨hrefl.followUps, hrefl.selections,
      fun item h => ⟨item, subset_withItem _ item h, rfl⟩, hrefl.passed, hrefl.drawn⟩
  | advance =>
    exact ⟨hrefl.followUps, hrefl.selections, hrefl.items,
      fun _ h => List.mem_append_right _ h, hrefl.drawn⟩
  | decide =>
    exact ⟨hrefl.followUps, hrefl.selections, key_decided _ _ _, hrefl.passed, hrefl.drawn⟩

theorem steady_exec {op : ReviewOp} (h : Ordinary op) : Steady s (execReview P op s) := by
  refine ⟨onward_exec op, fun id date hdate => ?_⟩
  cases op with
  | read | selectDue | alert | putUser | selectUsers | insertItem | decide => exact hdate
  | insertCampaign campaign => exact nextRunOf_insertRow (fun _ => rfl) hdate
  | complete campaignId => exact (nextRunOf_complete campaignId id).trans hdate
  | insertFollowUp | advance => exact h.elim

theorem steady_insertFollowUp (source : AccessReviewCampaign) :
    Steady s (execReview P (.insertFollowUp source) s) :=
  ⟨onward_exec _, fun _ _ hdate => nextRunOf_insertRow (fun _ => rfl) hdate⟩

theorem kept_exec {op : ReviewOp} (h : Kept s) (hop : Ordinary op) : Kept (execReview P op s) := by
  refine h.steady (steady_exec hop) ?_ ?_
  · cases op with
    | insertFollowUp => exact hop.elim
    | _ => rfl
  · cases op with
    | advance => exact hop.elim
    | _ => rfl

end Statements

section Owner

variable {P} {s : ReviewStore} {source : AccessReviewCampaign} {campaign : Nat}
  {rest : List AccessReviewCampaign}

theorem Known.current (h : Known s source) (hlaw : OncePerPeriod s)
    (hunserved : Unserved (.insertFollowUp source) s) :
    nextRunOf source.id s = some source.due := by
  obtain hcurrent | hpassed := h
  · exact hcurrent
  · obtain ⟨followUp, hmem, hkey, -⟩ := hlaw.served _ hpassed
    exact absurd hkey (hunserved followUp hmem)

theorem kept_insertFollowUp (h : Kept s) (hknown : Known s source)
    (hunserved : Unserved (.insertFollowUp source) s) :
    Kept (execReview P (.insertFollowUp source) s) := by
  have hsteady : Steady s (execReview P (.insertFollowUp source) s) := steady_insertFollowUp source
  refine ⟨⟨?_, fun date hdate => ?_⟩, fun followUp hmem => ?_, fun followUp hmem => ?_⟩
  · refine List.nodup_cons.mpr ⟨fun hin => ?_, h.once⟩
    obtain ⟨followUp, hmem, hkey⟩ := List.mem_map.mp hin
    exact hunserved followUp hmem hkey
  · obtain ⟨followUp, hmem, hkey, hcomplete⟩ := h.served date hdate
    exact ⟨followUp, hsteady.followUps _ hmem, hkey, hcomplete.onward hsteady.toOnward⟩
  · obtain rfl | hmem := List.mem_cons.mp hmem
    · exact .inr (hsteady.dates _ _ (hknown.current h.toOncePerPeriod hunserved))
    · exact (h.current followUp hmem).imp (hsteady.passed _) (hsteady.dates _ _)
  · change followUp.campaign < s.campaigns.drawn + 1
    obtain rfl | hmem := List.mem_cons.mp hmem
    · exact Nat.lt_succ_self _
    · have hbelow := h.below followUp hmem
      omega

theorem passed_advance {months : Nat} (h : nextRunOf source.id s = some source.due) :
    (execReview P (.advance source.id months) s).passed = (source.id, source.due) :: s.passed := by
  change ((nextRunOf source.id s).map _).toList ++ s.passed = _
  rw [h]
  rfl

theorem nextRunOf_advance {months id : Nat} (h : id ≠ source.id) :
    nextRunOf id (execReview P (.advance source.id months) s) = nextRunOf id s :=
  (nextRunOf_modifyRow source.id (fun row => id_advanced months row) id).trans (if_neg h)

theorem current_advance {months id date : Nat} (hcurrent : nextRunOf source.id s = some source.due)
    (h : (id, date) ∈ s.passed ∨ nextRunOf id s = some date) :
    (id, date) ∈ (execReview P (.advance source.id months) s).passed ∨
      nextRunOf id (execReview P (.advance source.id months) s) = some date := by
  rw [passed_advance hcurrent]
  obtain hpassed | hdate := h
  · exact .inl (List.mem_cons_of_mem _ hpassed)
  · by_cases hid : id = source.id
    · subst hid
      rw [hcurrent] at hdate
      exact .inl (Option.some.inj hdate ▸ List.mem_cons_self)
    · rw [nextRunOf_advance hid]
      exact .inr hdate

theorem Known.advance {months : Nat} {other : AccessReviewCampaign} (h : Known s other)
    (hcurrent : nextRunOf source.id s = some source.due) :
    Known (execReview P (.advance source.id months) s) other :=
  (current_advance hcurrent h.symm).symm

theorem kept_advance {months : Nat} (h : Kept s) (hmaking : Making s source campaign)
    (hcomplete : Complete s campaign) : Kept (execReview P (.advance source.id months) s) := by
  have honward : Onward s (execReview P (.advance source.id months) s) := onward_exec _
  refine ⟨⟨h.once, fun date hdate => ?_⟩, fun followUp hmem => ?_, h.below⟩
  · rw [passed_advance hmaking.current] at hdate
    obtain rfl | hdate := List.mem_cons.mp hdate
    · exact ⟨_, hmaking.followUp, rfl, hcomplete.onward honward⟩
    · obtain ⟨followUp, hmem, hkey, hserved⟩ := h.served date hdate
      exact ⟨followUp, hmem, hkey, hserved.onward honward⟩
  · exact current_advance hmaking.current (h.current followUp hmem)

theorem Making.advance {months other : Nat} {source' : AccessReviewCampaign} (h : Kept s)
    (hmaking : Making s source campaign) (hmaking' : Making s source' other)
    (hne : campaign ≠ other) :
    Making (execReview P (.advance source.id months) s) source' other := by
  have hid : source'.id ≠ source.id := by
    intro hid
    have hdue : source'.due = source.due := by
      have hsame := hmaking'.current
      rw [hid, hmaking.current] at hsame
      exact (Option.some.inj hsame).symm
    have hkey : FollowUp.key ⟨source.id, source.due, campaign⟩ =
        FollowUp.key ⟨source'.id, source'.due, other⟩ := by rw [hid, hdue]; rfl
    have heq := List.inj_on_of_nodup_map h.once hmaking.followUp hmaking'.followUp hkey
    exact hne (congrArg FollowUp.campaign heq)
  exact ⟨hmaking'.followUp, (nextRunOf_advance hid).trans hmaking'.current⟩

theorem Fits.advance {months : Nat} {phase : Phase} (h : Kept s) (hmaking : Making s source campaign)
    (hfits : Fits s phase) (hapart : phase.owns ≠ some campaign) :
    Fits (execReview P (.advance source.id months) s) phase := by
  have hcurrent := hmaking.current
  cases phase with
  | idle => trivial
  | ready sources => exact fun other hother => (hfits other hother).advance hcurrent
  | selecting source' other rest =>
    refine ⟨hmaking.advance h hfits.1 fun heq => hapart (congrArg some heq.symm),
      fun other hother => (hfits.2 other hother).advance hcurrent⟩
  | filling source' other left rest =>
    obtain ⟨⟨hmaking', hrest⟩, hitems⟩ := hfits
    refine ⟨⟨hmaking.advance h hmaking' fun heq => hapart (congrArg some heq.symm),
      fun other hother => (hrest other hother).advance hcurrent⟩, hitems⟩

theorem known_dueSources (hsource : source ∈ dueSources s) : Known s source := by
  obtain ⟨hmem, hdue⟩ := List.mem_filter.mp hsource
  rw [isDue, Bool.and_eq_true] at hdue
  obtain ⟨date, hdate, -⟩ := (Option.any_eq_true _ _).mp hdue.2
  left
  have hfound : findCampaign source.id s = some source := s.campaigns_distinct.find_key hmem
  rw [nextRunOf, hfound, Option.bind_some, AccessReviewCampaign.due, hdate]
  rfl

end Owner

section Runs

/-- What a statement does to the phase of its run. -/
inductive Moves (s : ReviewStore) : Phase → ReviewOp → Phase → Prop
  | idle {op : ReviewOp} (hop : Ordinary op) : Moves s .idle op .idle
  | selectDue : Moves s .idle .selectDue (.ready (dueSources s))
  | insertFollowUp (source : AccessReviewCampaign) (rest : List AccessReviewCampaign) :
      Moves s (.ready (source :: rest)) (.insertFollowUp source)
        (.selecting source s.campaigns.drawn rest)
  | selectUsers (source : AccessReviewCampaign) (campaign : Nat) (rest : List AccessReviewCampaign)
      (companyId : Option String) :
      Moves s (.selecting source campaign rest) (.selectUsers campaign companyId)
        (.filling source campaign (activeUsers companyId s) rest)
  | insertItem (source : AccessReviewCampaign) (campaign : Nat) (user : String)
      (left : List String) (rest : List AccessReviewCampaign) :
      Moves s (.filling source campaign (user :: left) rest) (.insertItem campaign user)
        (.filling source campaign left rest)
  | advance (source : AccessReviewCampaign) (campaign months : Nat)
      (rest : List AccessReviewCampaign) :
      Moves s (.filling source campaign [] rest) (.advance source.id months) (.ready rest)

variable {P} {s : ReviewStore} {phase phase' other : Phase} {op : ReviewOp}

theorem moves_of_certifying (h : certifying phase op s = some phase') : Moves s phase op phase' := by
  cases phase with
  | idle =>
    cases op with
    | insertFollowUp | advance => cases h
    | selectDue => exact Option.some.inj h ▸ .selectDue
    | _ => exact Option.some.inj h ▸ .idle trivial
  | ready sources =>
    cases sources with
    | nil => cases op <;> cases h
    | cons source rest =>
      cases op with
      | insertFollowUp source' =>
        obtain ⟨rfl, heq⟩ := Option.ite_none_right_eq_some.mp h
        exact Option.some.inj heq ▸ .insertFollowUp source' rest
      | _ => cases h
  | selecting source campaign rest =>
    cases op with
    | selectUsers campaign' companyId =>
      obtain ⟨rfl, heq⟩ := Option.ite_none_right_eq_some.mp h
      exact Option.some.inj heq ▸ .selectUsers source campaign' rest companyId
    | _ => cases h
  | filling source campaign left rest =>
    cases left with
    | nil =>
      cases op with
      | advance id months =>
        obtain ⟨rfl, heq⟩ := Option.ite_none_right_eq_some.mp h
        exact Option.some.inj heq ▸ .advance source campaign months rest
      | _ => cases h
    | cons user left =>
      cases op with
      | insertItem campaign' user' =>
        obtain ⟨⟨rfl, rfl⟩, heq⟩ := Option.ite_none_right_eq_some.mp h
        exact Option.some.inj heq ▸ .insertItem source campaign' user' left rest
      | _ => cases h

theorem Making.owned {source : AccessReviewCampaign} {campaign : Nat} (hkept : Kept s)
    (h : Making s source campaign) : campaign < s.campaigns.drawn :=
  hkept.below _ h.followUp

theorem Fits.owned (hkept : Kept s) (h : Fits s phase) {campaign : Nat}
    (howns : phase.owns = some campaign) : campaign < s.campaigns.drawn := by
  cases phase with
  | idle | ready => cases howns
  | selecting source campaign' rest => exact Option.some.inj howns ▸ h.1.owned hkept
  | filling source campaign' left rest => exact Option.some.inj howns ▸ h.1.1.owned hkept

theorem apart_of_owns (h : phase'.owns = phase.owns) (hapart : Apart phase other) :
    Apart phase' other :=
  fun campaign howns => hapart campaign (h ▸ howns)

theorem complete_of_filled {campaign : Nat}
    (h : ∃ users, (campaign, users) ∈ s.selections ∧ ∀ user ∈ users,
      user ∈ [] ∨ ∃ item ∈ s.items, item.key = (campaign, user)) : Complete s campaign := by
  obtain ⟨users, hselection, hitems⟩ := h
  exact ⟨users, hselection, fun user huser => (hitems user huser).resolve_left List.not_mem_nil⟩

theorem keeps_law (hkept : Kept s) (hunserved : Unserved op s) (hfits : Fits s phase)
    (hmoves : Moves s phase op phase') :
    Kept (execReview P op s) ∧ Fits (execReview P op s) phase' := by
  cases hmoves with
  | idle hop => exact ⟨kept_exec hkept hop, trivial⟩
  | selectDue => exact ⟨hkept, fun source hsource => known_dueSources hsource⟩
  | insertFollowUp source rest =>
    have hknown := hfits source List.mem_cons_self
    have hsteady : Steady s (execReview P (.insertFollowUp source) s) :=
      steady_insertFollowUp source
    refine ⟨kept_insertFollowUp hkept hknown hunserved, ⟨List.mem_cons_self, ?_⟩,
      fun other hother => (hfits other (List.mem_cons_of_mem _ hother)).steady hsteady⟩
    exact hsteady.dates _ _ (hknown.current hkept.toOncePerPeriod hunserved)
  | selectUsers source campaign rest companyId =>
    have hop : Ordinary (.selectUsers campaign companyId) := trivial
    have hstill := hfits.steady (steady_exec (P := P) hop)
    exact ⟨kept_exec hkept hop, hstill, _, List.mem_cons_self, fun user huser => .inl huser⟩
  | insertItem source campaign user left rest =>
    have hop : Ordinary (.insertItem campaign user) := trivial
    obtain ⟨hmaking, users, hselection, hitems⟩ := hfits.steady (steady_exec (P := P) hop)
    refine ⟨kept_exec hkept hop, hmaking, users, hselection, fun user' huser' => ?_⟩
    obtain hleft | hitem := hitems user' huser'
    · obtain rfl | hleft := List.mem_cons.mp hleft
      · exact .inr (mem_withItem ⟨campaign, user', "PENDING"⟩ s.items)
      · exact .inl hleft
    · exact .inr hitem
  | advance source campaign months rest =>
    obtain ⟨⟨hmaking, hrest⟩, hfilled⟩ := hfits
    exact ⟨kept_advance hkept hmaking (complete_of_filled hfilled),
      fun other hother => (hrest other hother).advance hmaking.current⟩

theorem keeps_others (hkept : Kept s) (hfits : Fits s phase)
    (hmoves : Moves s phase op phase') (hother : Fits s other) (hapart : Apart phase other) :
    Fits (execReview P op s) other ∧ Apart phase' other := by
  cases hmoves with
  | idle hop => exact ⟨hother.steady (steady_exec hop), hapart⟩
  | selectDue => exact ⟨hother, apart_of_owns rfl hapart⟩
  | insertFollowUp source rest =>
    refine ⟨hother.steady (steady_insertFollowUp source), fun campaign howns hsame => ?_⟩
    obtain rfl := Option.some.inj howns
    exact Nat.lt_irrefl _ (hother.owned hkept hsame)
  | selectUsers source campaign rest companyId =>
    have hop : Ordinary (.selectUsers campaign companyId) := trivial
    exact ⟨hother.steady (steady_exec hop), apart_of_owns rfl hapart⟩
  | insertItem source campaign user left rest =>
    have hop : Ordinary (.insertItem campaign user) := trivial
    exact ⟨hother.steady (steady_exec hop), apart_of_owns rfl hapart⟩
  | advance source campaign months rest =>
    exact ⟨hother.advance hkept hfits.1.1 (hapart campaign rfl), fun _ howns => by cases howns⟩

theorem separate_certifications (P : CertificationPlatform) :
    Separate (certificationSystem P) Unserved certifying (fun _ => True) .idle Kept Fits Apart where
  handler _ req _ := conforms_handler req
  symm h campaign howns hother := h campaign hother howns
  apart _ _ _ hidle := by cases hidle
  start _ _ := trivial
  exec _ _ _ _ hkept hunserved hfits hadvance :=
    keeps_law hkept hunserved hfits (moves_of_certifying hadvance)
  frame _ _ _ _ _ hkept _ hfits hadvance hother hapart :=
    keeps_others hkept hfits (moves_of_certifying hadvance) hother hapart
  tick s hkept := by
    refine ⟨⟨⟨hkept.once, hkept.served⟩, hkept.current, hkept.below⟩, fun phase hfits => ?_⟩
    have hsteady : Steady s { s with now := s.now + 1 } :=
      ⟨⟨fun _ h => h, fun _ h => h, fun item h => ⟨item, h, rfl⟩, fun _ h => h, Nat.le_refl _⟩,
        fun _ _ h => h⟩
    exact hfits.steady hsteady

theorem law_exec_iff (hkept : Kept s) {next : ReviewStore → ReviewProgram}
    (hconforms : (Prog.step op next).Conforms Unserved certifying (fun _ => True) phase)
    (hfits : Fits s phase) : OncePerPeriod (execReview P op s) ↔ Unserved op s := by
  refine ⟨fun hlaw => ?_, fun hunserved => ?_⟩
  · cases op with
    | insertFollowUp source =>
      have hnodup : (FollowUp.key ⟨source.id, source.due, s.campaigns.drawn⟩ ::
        s.followUps.map FollowUp.key).Nodup := hlaw.once
      exact fun followUp hmem hkey =>
        (List.nodup_cons.mp hnodup).1 (List.mem_map.mpr ⟨followUp, hmem, hkey⟩)
    | _ => trivial
  · obtain ⟨phase', hadvance, -⟩ := hconforms s hunserved
    exact (keeps_law hkept hunserved hfits (moves_of_certifying hadvance)).1.toOncePerPeriod

end Runs

section Samples

def samplePlatform : CertificationPlatform :=
  ⟨fun date months => date + months * 30 * day, id⟩

def sampleCampaign : AccessReviewCampaign :=
  ⟨0, some "acme", "Monthly", .completed, none, some .monthly, 7, some 5, "root", some 3⟩

theorem below_sample : ∀ row ∈ [sampleCampaign], row.id < 1 := by
  intro row hrow
  obtain rfl := List.mem_singleton.mp hrow
  exact Nat.zero_lt_one

theorem distinct_sample : Distinct AccessReviewCampaign.id [sampleCampaign] :=
  List.nodup_singleton _

def dueNow : Config ReviewStore ReviewOp :=
  ⟨⟨⟨[sampleCampaign], 1, below_sample⟩, distinct_sample, [], List.nodup_nil,
    [⟨"ana", some "acme", true, none⟩], [], 5, [], [], []⟩, []⟩

/-- `Unserved`, as a test. -/
def isUnserved : ReviewOp → ReviewStore → Bool
  | .insertFollowUp source, s =>
    s.followUps.all fun followUp => !decide (followUp.key = (source.id, source.due))
  | .read, _ | .alert _, _ | .insertCampaign _, _ | .selectDue, _ | .selectUsers .., _
  | .insertItem .., _ | .advance .., _ | .decide .., _ | .complete _, _ | .putUser _, _ => true

theorem unserved_of_test {op : ReviewOp} {s : ReviewStore} (h : isUnserved op s = true) :
    Unserved op s := by
  cases op with
  | insertFollowUp source =>
    intro followUp hmem hkey
    have hother := List.all_eq_true.mp h followUp hmem
    rw [hkey] at hother
    simp at hother
  | _ => trivial

end Samples
end FieldserviceIT.Admin.Certification
