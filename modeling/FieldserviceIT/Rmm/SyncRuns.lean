import FieldserviceIT.Rmm.Idempotence

/-!
How the runs of a synchronisation end. A run is open from the start of an attempt; every exit
of an attempt either updates it, with the counts as that exit gives them, or leaves it open.
Which exits do which is a condition on what the attempt meets, and it is exact.
-/

namespace FieldserviceIT.Rmm

open Admin Common Lib

section Law

variable (P : SyncPlatform)

/-- The run is over and says what it did. -/
structure RmmSyncRun.Closed (row : RmmSyncRun) : Prop where
  ended : row.status = .success ∨ row.status = .failed
  created : row.assetsCreated = row.created
  updated : row.assetsUpdated = row.updated

/-- Every run that was opened since is closed and can be replayed, and no lock is left. -/
structure RunsClosed (s s' : SyncState) : Prop where
  closed : ∀ row ∈ s'.runs.rows, s.runs.drawn ≤ row.id → row.Closed
  released : ∀ name ∈ s'.locks, name ∈ s.locks
  replayable : ∀ row ∈ s'.runs.rows, s.runs.drawn ≤ row.id →
    replayedRun row.companyId row.id s' = .ok row

/-- An attempt that got a report closes its run if it breaks off before the first asset or is
through with all of them, unless nobody could be told; a run that is told twice says what it is
told last. -/
def Attempt.closesReport (attempt : Attempt) (assets : List AssetMapping) : Bool :=
  match attempt.breaks assets with
  | some broken => attempt.failure.recorded && decide (broken.1 = 0)
  | none =>
    if attempt.finish.error.isSome && attempt.failure.recorded then assets.isEmpty
    else attempt.finish.recorded

/-- The run of the attempt is closed at the end, if there is one. -/
def Attempt.closes (config : RmmProviderConfig) (attempt : Attempt) : Bool :=
  !attempt.inserted ||
    if supported config.provider then
      match parseCredentials P config.credentials with
      | .error _ => false
      | .ok _ =>
        match attempt.validation with
        | .error _ => false
        | .ok false => attempt.finish.recorded
        | .ok true =>
          match attempt.report with
          | .error _ => attempt.failure.recorded
          | .ok assets => attempt.closesReport assets
    else false

def Attempt.throws (config : RmmProviderConfig) (attempt : Attempt) : Bool :=
  if supported config.provider then
    match parseCredentials P config.credentials with
    | .error _ => true
    | .ok _ =>
      match attempt.validation with
      | .error _ => true
      | .ok false => attempt.finish.error.isSome
      | .ok true =>
        match attempt.report with
        | .error _ => true
        | .ok assets => (attempt.breaks assets).isSome || attempt.finish.error.isSome
  else true

def attemptsClose (config : RmmProviderConfig) (attempts : Nat → Attempt) : Nat → Nat → Bool
  | 0, _ => true
  | remaining + 1, attempt =>
    (attempts attempt).closes P config &&
      (!(attempts attempt).throws P config ||
        attemptsClose config attempts remaining (attempt + 1))

def SyncRequest.config (request : SyncRequest) (s : SyncState) : Option RmmProviderConfig :=
  match request with
  | now companyId provider => (findConfig P companyId provider s).filter (·.isActive)
  | replay companyId runId =>
    (replayedRun companyId runId s).toOption.bind fun priorRun =>
      (findConfig P companyId (lowerCased priorRun.provider) s).filter (·.isActive)
  | scheduled config => some config

/-- The call gets no lock, or it releases it and every attempt closes its run. -/
def SyncRequest.closesRuns (request : SyncRequest) (call : SyncCall) (s : SyncState) : Bool :=
  (request.config P s).all fun config =>
    call.lockError.isSome || s.locks.contains (lockName config) ||
      (call.released && attemptsClose P config call.attempts maxAttempts 1)

end Law

section OwnRun

variable {P : SyncPlatform} {before now : SyncState} {own : Option RmmSyncRun}

/-- One run has come since, if its row was inserted, and this is what has become of it. -/
structure OwnRun (before now : SyncState) (own : Option RmmSyncRun) : Prop where
  rows : now.runs.rows = before.runs.rows ++ own.toList
  drawn : before.runs.drawn ≤ now.runs.drawn
  number : ∀ row ∈ own, row.id = before.runs.drawn
  locks : now.locks = before.locks

def openedRun (config : RmmProviderConfig) (inserted : Bool) (s : SyncState) : Option RmmSyncRun :=
  if inserted then some (newRun config s.runs.drawn) else none

theorem ownRun_openRun (config : RmmProviderConfig) (inserted : Bool) (s : SyncState) :
    OwnRun s (openRun config inserted s) (openedRun config inserted s) := by
  rw [openRun, openedRun]
  split
  · refine ⟨rfl, Nat.le_succ _, fun row hrow => ?_, rfl⟩
    obtain rfl := Option.mem_some_iff.mp hrow
    rfl
  · exact ⟨(List.append_nil _).symm, Nat.le_refl _, (fun row hrow => by cases hrow), rfl⟩

theorem OwnRun.noteRun (h : OwnRun before now own) (change : RmmSyncRun → RmmSyncRun)
    (hid : ∀ row, (change row).id = row.id) :
    OwnRun before (noteRun before.runs.drawn change hid now) (own.map change) := by
  have hothers : before.runs.rows.map
      (fun row => if decide (row.id = before.runs.drawn) = true then change row else row) =
        before.runs.rows := by
    refine (List.map_congr_left fun row hrow => ?_).trans (List.map_id _)
    have hbelow := before.runs.below row hrow
    rw [if_neg (by simpa using Nat.ne_of_lt hbelow)]
    rfl
  refine ⟨?_, h.drawn, fun row hrow => ?_, h.locks⟩
  · change now.runs.rows.map _ = _
    rw [h.rows, List.map_append, hothers]
    cases own with
    | none => rfl
    | some row =>
      have hrow := h.number row rfl
      rw [Option.map_some, Option.toList_some, Option.toList_some, List.map_singleton,
        if_pos (decide_eq_true hrow)]
  · obtain ⟨earlier, hearlier, rfl⟩ := Option.map_eq_some_iff.mp hrow
    rw [hid, h.number earlier hearlier]

def RmmSyncRun.worked (created updated : Nat) (row : RmmSyncRun) : RmmSyncRun :=
  { row with created := row.created + created, updated := row.updated + updated }

theorem OwnRun.syncAssets (h : OwnRun before now own) (companyId : String) (entries : List Entry) :
    let loop := syncAssets P companyId before.runs.drawn entries now
    OwnRun before loop.state (own.map (RmmSyncRun.worked loop.assetsCreated loop.assetsUpdated)) ∧
      loop.assetsCreated + loop.assetsUpdated = entries.length := by
  induction entries using List.reverseRecOn with
  | nil =>
    refine ⟨?_, rfl⟩
    change OwnRun before now (own.map fun row => row)
    rw [Option.map_id']
    exact h
  | append_singleton entries entry ih =>
    obtain ⟨hown, hcount⟩ := ih
    simp only [Rmm.syncAssets, List.foldl_append, List.foldl_cons, List.foldl_nil,
      List.length_append, List.length_singleton] at hown hcount ⊢
    generalize entries.foldl (syncAsset P companyId before.runs.drawn) ⟨now, 0, 0⟩ = loop
      at hown hcount ⊢
    have hwritten : OwnRun before { loop.state with
        inventory := putAsset P companyId entry loop.state.inventory }
        (own.map (RmmSyncRun.worked loop.assetsCreated loop.assetsUpdated)) :=
      ⟨hown.rows, hown.drawn, hown.number, hown.locks⟩
    unfold syncAsset
    split
    · refine ⟨?_, by simp only; omega⟩
      have hnoted := hwritten.noteRun (fun row => { row with updated := row.updated + 1 })
        fun _ => rfl
      rw [Option.map_map] at hnoted
      exact hnoted
    · refine ⟨?_, by simp only; omega⟩
      have hnoted := hwritten.noteRun (fun row => { row with created := row.created + 1 })
        fun _ => rfl
      rw [Option.map_map] at hnoted
      exact hnoted

theorem OwnRun.finishSyncRun (h : OwnRun before now own) (configId : String) (status : RunStatus)
    (assetsCreated assetsUpdated assetsSkipped : Nat) (errorMessage : Option String)
    (finish : Finish) :
    OwnRun before
      (finishSyncRun before.runs.drawn configId status assetsCreated assetsUpdated assetsSkipped
        errorMessage finish now).1
      (own.map fun row => if finish.recorded then
        row.ended status assetsCreated assetsUpdated assetsSkipped errorMessage else row) := by
  have hrecorded : OwnRun before (if finish.recorded then Rmm.noteRun before.runs.drawn
      (RmmSyncRun.ended status assetsCreated assetsUpdated assetsSkipped errorMessage)
        (fun _ => rfl) now else now)
      (own.map fun row => if finish.recorded then
        row.ended status assetsCreated assetsUpdated assetsSkipped errorMessage else row) := by
    split
    · exact h.noteRun
        (RmmSyncRun.ended status assetsCreated assetsUpdated assetsSkipped errorMessage) fun _ => rfl
    · rw [Option.map_id']
      exact h
  simp only [Rmm.finishSyncRun]
  split
  · exact hrecorded
  · exact ⟨hrecorded.rows, hrecorded.drawn, hrecorded.number, hrecorded.locks⟩

theorem error_finishSyncRun (runId : Nat) (configId : String) (status : RunStatus)
    (assetsCreated assetsUpdated assetsSkipped : Nat) (errorMessage : Option String)
    (finish : Finish) (s : SyncState) :
    (finishSyncRun runId configId status assetsCreated assetsUpdated assetsSkipped errorMessage
      finish s).2 = finish.error := by
  simp only [finishSyncRun]
  split
  · rfl
  · next herror => exact (Option.not_isSome_iff_eq_none.mp herror).symm

end OwnRun

section Attempts

variable {P : SyncPlatform}

theorem closed_map_iff {config : RmmProviderConfig} {inserted : Bool} {s : SyncState}
    {change : RmmSyncRun → RmmSyncRun} {closes : Bool}
    (h : (change (newRun config s.runs.drawn)).Closed ↔ closes = true) :
    (∀ row ∈ (openedRun config inserted s).map change, row.Closed) ↔
      (!inserted || closes) = true := by
  cases inserted with
  | false => exact iff_of_true (fun row hrow => by cases hrow) rfl
  | true =>
    rw [Bool.not_true, Bool.false_or, ← h]
    constructor
    · intro hall
      exact hall _ rfl
    · intro hclosed row hrow
      obtain rfl := Option.mem_some_iff.mp hrow
      exact hclosed

theorem not_closed_of_running {row : RmmSyncRun} (h : row.status = .running) : ¬ row.Closed := by
  rintro ⟨hended | hended, -, -⟩
  · rw [h] at hended
    cases hended
  · rw [h] at hended
    cases hended

theorem closed_success (created updated : Nat) (errorMessage : Option String) (config :
    RmmProviderConfig) (n : Nat) : (((newRun config n).worked created updated).ended .success
      created updated 0 errorMessage).Closed :=
  ⟨.inl rfl, (Nat.zero_add created).symm, (Nat.zero_add updated).symm⟩

theorem closed_failed_iff (created updated : Nat) (errorMessage : Option String) (config :
    RmmProviderConfig) (n : Nat) : (((newRun config n).worked created updated).ended .failed
      0 0 0 errorMessage).Closed ↔ created + updated = 0 := by
  constructor
  · rintro ⟨-, hcreated, hupdated⟩
    change 0 = 0 + created at hcreated
    change 0 = 0 + updated at hupdated
    omega
  · intro hnothing
    refine ⟨.inr rfl, ?_, ?_⟩
    · change 0 = 0 + created
      omega
    · change 0 = 0 + updated
      omega

theorem worked_nothing (row : RmmSyncRun) : row.worked 0 0 = row :=
  rfl

theorem closed_broken_iff (created updated : Nat) (errorMessage : Option String) (recorded : Bool)
    (config : RmmProviderConfig) (n : Nat) :
    (if recorded then ((newRun config n).worked created updated).ended .failed 0 0 0 errorMessage
      else (newRun config n).worked created updated).Closed ↔
        (recorded && decide (created + updated = 0)) = true := by
  cases recorded with
  | false => exact iff_of_false (not_closed_of_running rfl) Bool.false_ne_true
  | true =>
    rw [if_pos rfl, closed_failed_iff, Bool.true_and, decide_eq_true_eq]

theorem length_take_breaks {attempt : Attempt} {assets : List AssetMapping} {n : Nat}
    {error : String} (h : attempt.breaks assets = some (n, error)) :
    (assets.zipIdx.take n).length = n := by
  obtain ⟨-, hbreaks⟩ := Option.filter_eq_some_iff.mp h
  rw [Bool.and_eq_true, decide_eq_true_eq] at hbreaks
  rw [List.length_take, List.length_zipIdx, Nat.min_eq_left hbreaks.1]

theorem closed_twice_iff (created updated : Nat) (message errorMessage : Option String)
    (recorded again : Bool) (config : RmmProviderConfig) (n : Nat) {told : RmmSyncRun}
    (htold : (if recorded then ((newRun config n).worked created updated).ended .success created
      updated 0 message else (newRun config n).worked created updated) = told) :
    (if again then told.ended .failed 0 0 0 errorMessage else told).Closed ↔
      (if again then decide (created + updated = 0) else recorded) = true := by
  subst htold
  cases again with
  | false =>
    cases recorded with
    | false => exact iff_of_false (not_closed_of_running rfl) Bool.false_ne_true
    | true => exact iff_of_true (closed_success _ _ _ _ _) rfl
  | true =>
    rw [if_pos rfl, if_pos rfl, decide_eq_true_eq, ← closed_failed_iff created updated errorMessage
      config n]
    cases recorded with
    | false => exact Iff.rfl
    | true => exact Iff.rfl

section Reports

variable {config : RmmProviderConfig} {attempt : Attempt} {s : SyncState}
variable {assets : List AssetMapping} {runId : Nat}

theorem syncReported_breaks (hreport : attempt.report = .ok assets) {n : Nat} {error : String}
    (hbreaks : attempt.breaks assets = some (n, error)) :
    syncReported P config runId attempt s =
      ((syncAssets P config.companyId runId (assets.zipIdx.take n) s).state, .error error) := by
  simp only [syncReported, hreport, hbreaks]

theorem syncReported_finished (hreport : attempt.report = .ok assets)
    (hbreaks : attempt.breaks assets = none) (herror : attempt.finish.error = none) {loop : SyncLoop}
    (hloop : syncAssets P config.companyId runId assets.zipIdx s = loop) :
    syncReported P config runId attempt s =
      ((finishSyncRun runId config.id .success loop.assetsCreated loop.assetsUpdated 0 none
        attempt.finish loop.state).1, .ok (.synced loop.assetsCreated loop.assetsUpdated 0)) := by
  simp only [syncReported, hreport, hbreaks, hloop, error_finishSyncRun, herror]

theorem syncReported_unfinished (hreport : attempt.report = .ok assets)
    (hbreaks : attempt.breaks assets = none) {error : String}
    (herror : attempt.finish.error = some error) {loop : SyncLoop}
    (hloop : syncAssets P config.companyId runId assets.zipIdx s = loop) :
    syncReported P config runId attempt s =
      ((finishSyncRun runId config.id .success loop.assetsCreated loop.assetsUpdated 0 none
        attempt.finish loop.state).1, .error error) := by
  simp only [syncReported, hreport, hbreaks, hloop, error_finishSyncRun, herror]

theorem syncValid_error {tried : SyncState} {error : String}
    (htried : syncReported P config runId attempt s = (tried, .error error)) :
    ∃ message, (syncValid P config runId attempt s).1 =
      (finishSyncRun runId config.id .failed 0 0 0 message attempt.failure tried).1 := by
  simp only [syncValid, htried]
  exact ⟨_, rfl⟩

end Reports

theorem own_syncValid (config : RmmProviderConfig) (attempt : Attempt) (s : SyncState)
    {assets : List AssetMapping} (hreport : attempt.report = .ok assets) :
    ∃ own, OwnRun s
      (syncValid P config s.runs.drawn attempt (openRun config attempt.inserted s)).1 own ∧
        ((∀ row ∈ own, row.Closed) ↔ (!attempt.inserted || attempt.closesReport assets) = true) := by
  have hopened := ownRun_openRun config attempt.inserted s
  cases hbreaks : attempt.breaks assets with
  | some broken =>
    obtain ⟨n, error⟩ := broken
    obtain ⟨hown, hcount⟩ := hopened.syncAssets (P := P) config.companyId (assets.zipIdx.take n)
    rw [length_take_breaks hbreaks] at hcount
    have htried : syncReported P config s.runs.drawn attempt (openRun config attempt.inserted s) =
        ((syncAssets P config.companyId s.runs.drawn (assets.zipIdx.take n)
          (openRun config attempt.inserted s)).state, .error error) :=
      syncReported_breaks hreport hbreaks
    obtain ⟨message, hstate⟩ := syncValid_error htried
    have hfailed := hown.finishSyncRun config.id .failed 0 0 0 message attempt.failure
    rw [Option.map_map] at hfailed
    rw [hstate, Attempt.closesReport, hbreaks]
    refine ⟨_, hfailed, closed_map_iff ?_⟩
    rw [Function.comp, closed_broken_iff, hcount]
  | none =>
    obtain ⟨hown, hcount⟩ := hopened.syncAssets (P := P) config.companyId assets.zipIdx
    generalize hloop : syncAssets P config.companyId s.runs.drawn assets.zipIdx
      (openRun config attempt.inserted s) = loop at hown hcount
    have hfinished := hown.finishSyncRun config.id .success loop.assetsCreated
      loop.assetsUpdated 0 none attempt.finish
    rw [List.length_zipIdx] at hcount
    rw [Option.map_map] at hfinished
    rw [Attempt.closesReport, hbreaks]
    cases herror : attempt.finish.error with
    | none =>
      simp only [syncValid, syncReported_finished hreport hbreaks herror hloop]
      refine ⟨_, hfinished, closed_map_iff ?_⟩
      simp only [Function.comp, Option.isSome_none, Bool.false_and, Bool.false_eq_true, if_false]
      cases attempt.finish.recorded with
      | false => exact iff_of_false (not_closed_of_running rfl) Bool.false_ne_true
      | true => exact iff_of_true (closed_success _ _ _ _ _) rfl
    | some error =>
      obtain ⟨message, hstate⟩ := syncValid_error
        (syncReported_unfinished hreport hbreaks herror hloop)
      have hfailed := hfinished.finishSyncRun config.id .failed 0 0 0 message attempt.failure
      rw [Option.map_map] at hfailed
      rw [hstate]
      refine ⟨_, hfailed, closed_map_iff ?_⟩
      have hempty : assets.isEmpty = decide (loop.assetsCreated + loop.assetsUpdated = 0) := by
        rw [hcount, Bool.eq_iff_iff, List.isEmpty_iff, decide_eq_true_eq,
          List.length_eq_zero_iff]
      rw [hempty]
      exact closed_twice_iff loop.assetsCreated loop.assetsUpdated none message
        attempt.finish.recorded attempt.failure.recorded config s.runs.drawn rfl

theorem own_unfinished (config : RmmProviderConfig) (inserted : Bool) (s : SyncState) :
    ∃ own, OwnRun s (openRun config inserted s) own ∧
      ((∀ row ∈ own, row.Closed) ↔ (!inserted || false) = true) := by
  have hopened := ownRun_openRun config inserted s
  rw [← Option.map_id' (x := openedRun config inserted s)] at hopened
  exact ⟨_, hopened, closed_map_iff (iff_of_false (not_closed_of_running rfl) Bool.false_ne_true)⟩

theorem own_finished (config : RmmProviderConfig) (inserted : Bool) (message : Option String)
    (finish : Finish) (s : SyncState) :
    ∃ own, OwnRun s (finishSyncRun s.runs.drawn config.id .failed 0 0 0 message finish
      (openRun config inserted s)).1 own ∧
        ((∀ row ∈ own, row.Closed) ↔ (!inserted || finish.recorded) = true) := by
  have hopened := ownRun_openRun config inserted s
  have hfinished := hopened.finishSyncRun config.id .failed 0 0 0 message finish
  refine ⟨_, hfinished, closed_map_iff ?_⟩
  have hbroken := closed_broken_iff 0 0 message finish.recorded config s.runs.drawn
  rw [worked_nothing, decide_eq_true rfl, Bool.and_true] at hbroken
  exact hbroken

theorem own_syncProviderAssets (config : RmmProviderConfig) (attempt : Attempt) (s : SyncState) :
    ∃ own, OwnRun s (syncProviderAssets P config attempt s).1 own ∧
      ((∀ row ∈ own, row.Closed) ↔ attempt.closes P config = true) := by
  unfold syncProviderAssets Attempt.closes
  simp only
  by_cases hsupported : supported config.provider = true
  · rw [if_pos hsupported, if_pos hsupported]
    cases parseCredentials P config.credentials with
    | error error => exact own_unfinished config attempt.inserted s
    | ok _ =>
      cases attempt.validation with
      | error error => exact own_unfinished config attempt.inserted s
      | ok valid =>
        cases valid with
        | false =>
          have hown := own_finished config attempt.inserted (some "Invalid credentials")
            attempt.finish s
          simp only
          split <;> exact hown
        | true =>
          simp only
          cases hreport : attempt.report with
          | error error =>
            have htried : syncReported P config s.runs.drawn attempt
                (openRun config attempt.inserted s) =
                  (openRun config attempt.inserted s, .error error) := by
              simp only [syncReported, hreport]
            obtain ⟨message, hstate⟩ := syncValid_error htried
            rw [hstate]
            exact own_finished config attempt.inserted message attempt.failure s
          | ok assets => exact own_syncValid config attempt s hreport
  · rw [if_neg hsupported, if_neg hsupported]
    exact own_unfinished config attempt.inserted s

theorem isOk_syncValid (config : RmmProviderConfig) (runId : Nat) (attempt : Attempt)
    (s : SyncState) {assets : List AssetMapping} (hreport : attempt.report = .ok assets) :
    (syncValid P config runId attempt s).2.isOk =
      !((attempt.breaks assets).isSome || attempt.finish.error.isSome) := by
  cases hbreaks : attempt.breaks assets with
  | some broken =>
    simp only [syncValid, syncReported_breaks hreport hbreaks]
    rfl
  | none =>
    cases herror : attempt.finish.error with
    | none =>
      simp only [syncValid, syncReported_finished hreport hbreaks herror rfl]
      rfl
    | some error =>
      simp only [syncValid, syncReported_unfinished hreport hbreaks herror rfl]
      rfl

theorem isOk_syncProviderAssets (config : RmmProviderConfig) (attempt : Attempt) (s : SyncState) :
    (syncProviderAssets P config attempt s).2.isOk = !attempt.throws P config := by
  unfold syncProviderAssets Attempt.throws
  simp only
  by_cases hsupported : supported config.provider = true
  · rw [if_pos hsupported, if_pos hsupported]
    cases parseCredentials P config.credentials with
    | error error => rfl
    | ok _ =>
      cases attempt.validation with
      | error error => rfl
      | ok valid =>
        cases valid with
        | false =>
          simp only [error_finishSyncRun]
          cases attempt.finish.error with
          | none => rfl
          | some error => rfl
        | true =>
          simp only
          cases hreport : attempt.report with
          | error error =>
            simp only [syncValid, syncReported, hreport]
            rfl
          | ok assets => exact isOk_syncValid config s.runs.drawn attempt _ hreport
  · rw [if_neg hsupported, if_neg hsupported]
    rfl

end Attempts

section Calls

variable {P : SyncPlatform} {before now : SyncState} {added : List RmmSyncRun}

/-- The runs that have come since. -/
structure NewRuns (before now : SyncState) (added : List RmmSyncRun) : Prop where
  rows : now.runs.rows = before.runs.rows ++ added
  drawn : before.runs.drawn ≤ now.runs.drawn
  numbers : ∀ row ∈ added, before.runs.drawn ≤ row.id
  distinct : Distinct RmmSyncRun.id added
  locks : now.locks = before.locks

theorem newRuns_refl (s : SyncState) : NewRuns s s [] :=
  ⟨(List.append_nil _).symm, Nat.le_refl _, fun _ hrow => absurd hrow List.not_mem_nil,
    List.nodup_nil, rfl⟩

theorem OwnRun.newRuns {own : Option RmmSyncRun} (h : OwnRun before now own) :
    NewRuns before now own.toList := by
  refine ⟨h.rows, h.drawn, fun row hrow => ?_, ?_, h.locks⟩
  · exact Nat.le_of_eq (h.number row (Option.mem_toList.mp hrow)).symm
  · cases own with
    | none => exact List.nodup_nil
    | some row => exact List.nodup_singleton _

theorem NewRuns.trans (h : NewRuns before now added) {later : SyncState}
    {more : List RmmSyncRun} (h' : NewRuns now later more) :
    NewRuns before later (added ++ more) := by
  refine ⟨?_, Nat.le_trans h.drawn h'.drawn, fun row hrow => ?_, ?_, h'.locks.trans h.locks⟩
  · rw [h'.rows, h.rows, List.append_assoc]
  · obtain hrow | hrow := List.mem_append.mp hrow
    · exact h.numbers row hrow
    · exact Nat.le_trans h.drawn (h'.numbers row hrow)
  · rw [Distinct, List.map_append, List.nodup_append]
    refine ⟨h.distinct, h'.distinct, ?_⟩
    intro number hnumber number' hnumber' heq
    obtain ⟨row, hrow, rfl⟩ := List.mem_map.mp hnumber
    obtain ⟨row', hrow', rfl⟩ := List.mem_map.mp hnumber'
    have hbelow := now.runs.below row (h.rows ▸ List.mem_append_right _ hrow)
    have habove := h'.numbers row' hrow'
    omega

theorem newRuns_tryAttempts (config : RmmProviderConfig) (attempts : Nat → Attempt)
    (remaining attempt : Nat) (s : SyncState) :
    ∃ added, NewRuns s (tryAttempts P config attempts remaining attempt s).1 added ∧
      ((∀ row ∈ added, row.Closed) ↔
        attemptsClose P config attempts remaining attempt = true) := by
  induction remaining generalizing attempt s with
  | zero => exact ⟨[], newRuns_refl s, by simp [attemptsClose]⟩
  | succ remaining ih =>
    obtain ⟨own, hown, hcloses⟩ := own_syncProviderAssets (P := P) config (attempts attempt) s
    have hthrows := isOk_syncProviderAssets (P := P) config (attempts attempt) s
    have hclosed : (∀ row ∈ own.toList, row.Closed) ↔
        (attempts attempt).closes P config = true := by
      rw [← hcloses]
      simp only [Option.mem_toList, Option.mem_def]
    unfold tryAttempts
    rw [attemptsClose]
    simp only
    split
    next answer hanswer =>
      rw [hanswer] at hthrows
      refine ⟨_, hown.newRuns, hclosed.trans ?_⟩
      rw [← hthrows]
      exact (iff_of_eq (congrArg (· = true) (Bool.and_true _))).symm
    next error herror =>
      rw [herror] at hthrows
      rw [← hthrows]
      obtain ⟨added, hadded, hrest⟩ := ih (attempt + 1)
        (syncProviderAssets P config (attempts attempt) s).1
      split
      next hlast =>
        subst hlast
        refine ⟨_, hown.newRuns, hclosed.trans ?_⟩
        exact (iff_of_eq (congrArg (· = true) (Bool.and_true _))).symm
      next =>
        refine ⟨_, hown.newRuns.trans hadded, ?_⟩
        rw [List.forall_mem_append, hclosed, hrest, Bool.and_eq_true]
        rfl

theorem NewRuns.mem_iff (h : NewRuns before now added) (row : RmmSyncRun) :
    row ∈ now.runs.rows ∧ before.runs.drawn ≤ row.id ↔ row ∈ added := by
  rw [h.rows, List.mem_append]
  constructor
  · rintro ⟨hrow | hrow, hsince⟩
    · exact absurd (before.runs.below row hrow) (Nat.not_lt.mpr hsince)
    · exact hrow
  · exact fun hrow => ⟨.inr hrow, h.numbers row hrow⟩

theorem NewRuns.replayedRun (h : NewRuns before now added) {row : RmmSyncRun} (hrow : row ∈ added)
    (hclosed : row.Closed) : replayedRun row.companyId row.id now = .ok row := by
  have hfound : findRun row.companyId row.id now = some row := by
    cases hfind : findRun row.companyId row.id now with
    | none =>
      have hnone := List.find?_eq_none.mp hfind row ((h.mem_iff row).mpr hrow).1
      simp at hnone
    | some found =>
      have hids := List.find?_some hfind
      rw [Bool.and_eq_true, decide_eq_true_eq, decide_eq_true_eq] at hids
      have hsince := h.numbers row hrow
      have hadded := (h.mem_iff found).mp ⟨List.mem_of_find?_eq_some hfind, by omega⟩
      rw [h.distinct.eq_of_key hadded hrow hids.1]
  have hended : row.status ≠ .running := fun hrunning => not_closed_of_running hrunning hclosed
  simp only [Rmm.replayedRun, hfound, if_neg hended]

theorem runsClosed_refl (s : SyncState) : RunsClosed s s where
  closed row hrow hsince := absurd (s.runs.below row hrow) (Nat.not_lt.mpr hsince)
  released _ hname := hname
  replayable row hrow hsince := absurd (s.runs.below row hrow) (Nat.not_lt.mpr hsince)

theorem NewRuns.closed (h : NewRuns before now added) (hclosed : ∀ row ∈ added, row.Closed)
    (hreleased : ∀ name ∈ now.locks, name ∈ before.locks) : RunsClosed before now where
  closed row hrow hsince := hclosed row ((h.mem_iff row).mp ⟨hrow, hsince⟩)
  released := hreleased
  replayable row hrow hsince := by
    have hadded := (h.mem_iff row).mp ⟨hrow, hsince⟩
    exact h.replayedRun hadded (hclosed row hadded)

theorem runsClosed_runSyncWithRetry (config : RmmProviderConfig) (call : SyncCall) (s : SyncState) :
    RunsClosed s (runSyncWithRetry P config call s).1 ↔
      (call.lockError.isSome || s.locks.contains (lockName config) ||
        (call.released && attemptsClose P config call.attempts maxAttempts 1)) = true := by
  unfold runSyncWithRetry
  cases call.lockError with
  | some error => exact iff_of_true (runsClosed_refl s) rfl
  | none =>
    rw [Option.isSome_none, Bool.false_or]
    simp only
    cases hheld : s.locks.contains (lockName config) with
    | true => exact iff_of_true (runsClosed_refl s) rfl
    | false =>
      obtain ⟨added, hadded, hcloses⟩ := newRuns_tryAttempts (P := P) config call.attempts
        maxAttempts 1 { s with locks := lockName config :: s.locks }
      have hlocks := hadded.locks
      rw [Bool.false_or, Bool.and_eq_true, ← hcloses]
      simp only [Bool.false_eq_true, if_false]
      generalize (tryAttempts P config call.attempts maxAttempts 1
        { s with locks := lockName config :: s.locks }).1 = tried at hadded hlocks ⊢
      have hnew : NewRuns s { tried with locks := s.locks } added :=
        ⟨hadded.rows, hadded.drawn, hadded.numbers, hadded.distinct, rfl⟩
      cases call.released with
      | true =>
        rw [if_pos rfl, hlocks, List.erase_cons_head]
        constructor
        · exact fun h => ⟨rfl, fun row hrow =>
            h.closed row ((hnew.mem_iff row).mpr hrow).1 (hnew.numbers row hrow)⟩
        · exact fun h => hnew.closed h.2 fun _ hname => hname
      | false =>
        refine iff_of_false (fun h => ?_) fun h => Bool.false_ne_true h.1
        have hkept := h.released (lockName config) (by simp [hlocks])
        rw [List.contains_eq_mem, decide_eq_false_iff_not] at hheld
        exact hheld hkept

theorem runsClosed_syncProviderNow (companyId provider : String) (call : SyncCall)
    (s : SyncState) : RunsClosed s (syncProviderNow P companyId provider call s).1 ↔
      (((findConfig P companyId provider s).filter (·.isActive)).all fun config =>
        call.lockError.isSome || s.locks.contains (lockName config) ||
          (call.released && attemptsClose P config call.attempts maxAttempts 1)) = true := by
  unfold syncProviderNow
  cases findConfig P companyId provider s with
  | none => exact iff_of_true (runsClosed_refl s) rfl
  | some config =>
    simp only
    cases hactive : config.isActive with
    | false =>
      rw [Option.filter_some_neg (by simp [hactive])]
      exact iff_of_true (runsClosed_refl s) rfl
    | true =>
      rw [Option.filter_some_pos (by simp [hactive]), if_pos rfl]
      exact runsClosed_runSyncWithRetry config call s

/-- The runs of a call are closed and the lock is released exactly where every attempt that is
made finishes its run as what it was. -/
theorem sync_runs_closed (P : SyncPlatform) (request : SyncRequest) (call : SyncCall)
    (s : SyncState) :
    RunsClosed s (request.carryOut P call s).1 ↔ request.closesRuns P call s = true := by
  cases request with
  | now companyId provider => exact runsClosed_syncProviderNow companyId provider call s
  | scheduled config => exact runsClosed_runSyncWithRetry config call s
  | replay companyId runId =>
    unfold SyncRequest.carryOut SyncRequest.closesRuns SyncRequest.config replaySyncRun
    simp only
    cases replayedRun companyId runId s with
    | error error => exact iff_of_true (runsClosed_refl s) rfl
    | ok priorRun => exact runsClosed_syncProviderNow companyId _ call s

end Calls

section Samples

def sampleAttempt : Attempt :=
  ⟨true, .ok true, .ok [], none, ⟨true, none⟩, ⟨true, none⟩⟩

def sampleSyncCall : SyncCall :=
  ⟨none, fun _ => sampleAttempt, true⟩

/-- The credentials are encrypted with a key that is not there. -/
theorem run_left_running : ¬ ∀ (P : SyncPlatform) (request : SyncRequest) (call : SyncCall)
    (s : SyncState), RunsClosed s (request.carryOut P call s).1 := by
  intro hall
  have hopen : ((SyncRequest.scheduled { sampleConfig with credentials := "ENC:a:b:c" }).carryOut
      sampleSyncPlatform sampleSyncCall sampleSync).1.runs.rows.any (fun row =>
        decide (row.status = .running)) = true := by
    decide
  obtain ⟨row, hrow, hrunning⟩ := List.any_eq_true.mp hopen
  have hclosed := (hall sampleSyncPlatform _ sampleSyncCall sampleSync).closed row hrow
    (Nat.zero_le _)
  exact not_closed_of_running (of_decide_eq_true hrunning) hclosed

end Samples
end FieldserviceIT.Rmm
