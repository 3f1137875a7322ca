import FieldserviceIT.Rmm.Sync

/-!
What synchronising the same report again does to the inventory. Assets with a serial number
are found again, so that the inventory is the one a single run leaves, however often the run
failed before and however far it came; an asset without one is created every time.
-/

namespace FieldserviceIT.Rmm

open Common Lib

section Entries

variable (P : SyncPlatform) (companyId : String)

theorem writeOver_writeOver (data old : AssetData) :
    data.writeOver (data.writeOver old) = data.writeOver old := by
  simp only [AssetData.writeOver, ← Option.or_assoc, Option.or_self]

theorem writeOver_self (data : AssetData) : data.writeOver data = data := by
  simp only [AssetData.writeOver, Option.or_self]

theorem or_congr_middle {α : Type} {a b b' : Option α} (c : Option α) (h : a.or b = a.or b') :
    a.or (c.or b) = a.or (c.or b') := by
  cases a with
  | some value => rfl
  | none =>
    cases c with
    | some value => rfl
    | none => exact h

theorem writeOver_congr (data other : AssetData) {old old' : AssetData}
    (h : data.writeOver old = data.writeOver old') :
    data.writeOver (other.writeOver old) = data.writeOver (other.writeOver old') := by
  simp only [AssetData.writeOver, AssetData.mk.injEq, true_and, and_true] at h ⊢
  obtain ⟨hmanufacturer, hmodel, hos, hipAddress, hlocation⟩ := h
  exact ⟨or_congr_middle _ hmanufacturer, or_congr_middle _ hmodel, or_congr_middle _ hos,
    or_congr_middle _ hipAddress, or_congr_middle _ hlocation⟩

variable {P companyId}

theorem id_updatedAsset (entry : Entry) (row : Asset) : (updatedAsset entry row).id = row.id :=
  rfl

theorem id_newAsset (n : Nat) (entry : Entry) : (newAsset companyId n entry).id = n :=
  rfl

theorem isFor_updatedAsset (entry other : Entry) (row : Asset) :
    isFor P companyId entry.1 (updatedAsset other row) = isFor P companyId entry.1 row :=
  rfl

theorem updatedAsset_newAsset (n : Nat) (entry : Entry) :
    updatedAsset entry (newAsset companyId n entry) = newAsset companyId n entry := by
  rw [updatedAsset, newAsset, writeOver_self]

theorem updatedAsset_updatedAsset (entry : Entry) (row : Asset) :
    updatedAsset entry (updatedAsset entry row) = updatedAsset entry row := by
  rw [updatedAsset, updatedAsset, writeOver_writeOver]

theorem updatedAsset_congr (entry other : Entry) (row row' : Asset)
    (h : updatedAsset entry row = updatedAsset entry row') :
    updatedAsset entry (updatedAsset other row) = updatedAsset entry (updatedAsset other row') := by
  obtain ⟨id, company, serialNumber, old, deletedAt, stemsFrom⟩ := row
  obtain ⟨id', company', serialNumber', old', deletedAt', stemsFrom'⟩ := row'
  simp only [updatedAsset, Asset.mk.injEq] at h ⊢
  obtain ⟨hid, hcompany, hserial, hdata, hrest⟩ := h
  exact ⟨hid, hcompany, hserial, writeOver_congr _ _ hdata, hrest⟩

variable (P companyId)

/-- What an entry of a report does to the inventory of a company. -/
@[reducible]
def assetUpserts : Upserts Asset Entry where
  number := Asset.id
  hits entry row := isFor P companyId entry.1 row
  write := updatedAsset
  new := newAsset companyId
  number_write := id_updatedAsset
  number_new := id_newAsset
  hits_write := isFor_updatedAsset
  write_new := updatedAsset_newAsset
  write_write := updatedAsset_updatedAsset
  write_congr := updatedAsset_congr

variable {P companyId}

theorem putAsset_eq (entry : Entry) (t : Inventory) :
    putAsset P companyId entry t = (assetUpserts P companyId).put entry t := by
  have hfind : t.rows.find? ((assetUpserts P companyId).hits entry) =
    existingAsset P companyId entry.1 t := rfl
  rw [putAsset, Upserts.put, hfind]
  cases existingAsset P companyId entry.1 t with
  | some row => rfl
  | none => rfl

theorem identified_of_serial {entry : Entry} (h : (serialOf entry.1).isSome = true) :
    (assetUpserts P companyId).Identified entry := by
  intro n
  obtain ⟨serialNumber, hserial⟩ := Option.isSome_iff_exists.mp h
  simp only [isFor, newAsset, hserial, Option.any_some, P.same_self, decide_true,
    Option.isNone_none, Bool.and_self]

theorem not_found_of_no_serial {entry : Entry} (h : (serialOf entry.1).isSome = false)
    (row : Asset) : (assetUpserts P companyId).hits entry row = false := by
  rw [Option.isSome_eq_false_iff, Option.isNone_iff_eq_none] at h
  simp only [isFor, h, Option.any_none]

end Entries

section Inventories

variable (P : SyncPlatform)

def syncedInventory (companyId : String) (assets : List AssetMapping) (t : Inventory) : Inventory :=
  assets.zipIdx.foldl (fun t entry => putAsset P companyId entry t) t

def activeAssets (companyId : String) (t : Inventory) : List Asset :=
  t.rows.filter fun row => decide (row.companyId = companyId) && row.deletedAt.isNone

def SameAssets (companyId : String) (t t' : Inventory) : Prop :=
  ∀ row, row ∈ activeAssets companyId t ↔ row ∈ activeAssets companyId t'

def Reports (call : SyncCall) (assets : List AssetMapping) : Prop :=
  ∀ attempt found, (call.attempts attempt).report = .ok found → found = assets

def afterCalls (config : RmmProviderConfig) (calls : List SyncCall) (s : SyncState) : SyncState :=
  calls.foldl (fun s call => (runSyncWithRetry P config call s).1) s

/-- The same report leaves the same assets, put in twice or by a call that succeeds in the end;
and of the assets that calls have added no two are from one entry of the report. -/
structure SyncsOnce (config : RmmProviderConfig) (assets : List AssetMapping) (s : SyncState) :
    Prop where
  twice : SameAssets config.companyId
    (syncedInventory P config.companyId assets
      (syncedInventory P config.companyId assets s.inventory))
    (syncedInventory P config.companyId assets s.inventory)
  retried : ∀ call result created updated skipped, Reports call assets →
    (runSyncWithRetry P config call s).2 = .ok result →
      result.answer = .synced created updated skipped →
        SameAssets config.companyId (runSyncWithRetry P config call s).1.inventory
          (syncedInventory P config.companyId assets s.inventory)
  once : ∀ calls : List SyncCall, (∀ call ∈ calls, Reports call assets) →
    Distinct Asset.stemsFrom
      ((activeAssets config.companyId (afterCalls P config calls s).inventory).filter fun row =>
        decide (s.inventory.drawn ≤ row.id))

/-- A part of a report from its start, and all of it where the report was worked through. -/
structure Part (companyId : String) (assets : List AssetMapping) (complete : Prop)
    (t t' : Inventory) (part : List Entry) : Prop where
  first : part <+: assets.zipIdx
  left : t' = (assetUpserts P companyId).putAll part t
  complete : complete → part = assets.zipIdx

variable {P} {s : SyncState} {companyId : String}

theorem syncedInventory_eq (assets : List AssetMapping) (t : Inventory) :
    syncedInventory P companyId assets t = (assetUpserts P companyId).putAll assets.zipIdx t := by
  have hstep : (fun t entry => putAsset P companyId entry t) =
      fun (t : Inventory) entry => (assetUpserts P companyId).put entry t := by
    funext t entry
    exact putAsset_eq entry t
  rw [syncedInventory, hstep]
  rfl

theorem inventory_syncAsset (runId : Nat) (loop : SyncLoop) (entry : Entry) :
    (syncAsset P companyId runId loop entry).state.inventory =
      (assetUpserts P companyId).put entry loop.state.inventory := by
  rw [← putAsset_eq, syncAsset]
  split <;> rfl

theorem inventory_syncAssets (runId : Nat) (entries : List Entry) (s : SyncState) :
    (syncAssets P companyId runId entries s).state.inventory =
      (assetUpserts P companyId).putAll entries s.inventory := by
  have hloop : ∀ loop : SyncLoop,
      (entries.foldl (syncAsset P companyId runId) loop).state.inventory =
        (assetUpserts P companyId).putAll entries loop.state.inventory := by
    induction entries with
    | nil => exact fun _ => rfl
    | cons entry entries ih =>
      intro loop
      rw [List.foldl_cons, ih, inventory_syncAsset]
      rfl
  exact hloop ⟨s, 0, 0⟩

theorem inventory_openRun (config : RmmProviderConfig) (inserted : Bool) (s : SyncState) :
    (openRun config inserted s).inventory = s.inventory := by
  rw [openRun]
  split <;> rfl

theorem inventory_finishSyncRun (runId : Nat) (configId : String) (status : RunStatus)
    (assetsCreated assetsUpdated assetsSkipped : Nat) (errorMessage : Option String)
    (finish : Finish) (s : SyncState) :
    (finishSyncRun runId configId status assetsCreated assetsUpdated assetsSkipped errorMessage
      finish s).1.inventory = s.inventory := by
  simp only [finishSyncRun]
  split <;> split <;> rfl

end Inventories

section Attempts

variable {P : SyncPlatform} {s : SyncState} {assets : List AssetMapping}

theorem part_nil (companyId : String) (assets : List AssetMapping) {complete : Prop}
    (hincomplete : ¬ complete) (t : Inventory) : Part P companyId assets complete t t [] :=
  ⟨List.nil_prefix, rfl, fun h => absurd h hincomplete⟩

theorem part_syncReported (config : RmmProviderConfig) (runId : Nat) (attempt : Attempt)
    (hreport : ∀ found, attempt.report = .ok found → found = assets) (s : SyncState) :
    ∃ part, Part P config.companyId assets
      (∃ answer, (syncReported P config runId attempt s).2 = .ok answer) s.inventory
        (syncReported P config runId attempt s).1.inventory part := by
  unfold syncReported
  cases hfound : attempt.report with
  | error error => exact ⟨[], part_nil _ _ (by simp) _⟩
  | ok found =>
    obtain rfl := hreport found hfound
    simp only
    cases hbreaks : attempt.breaks found with
    | some broken =>
      refine ⟨found.zipIdx.take broken.1, List.take_prefix _ _, ?_, by simp⟩
      exact inventory_syncAssets _ _ _
    | none =>
      refine ⟨found.zipIdx, List.prefix_refl _, ?_, fun _ => rfl⟩
      simp only
      split <;> rw [inventory_finishSyncRun, inventory_syncAssets]

def Synced (result : Except String SyncAnswer) : Prop :=
  ∃ created updated skipped, result = .ok (.synced created updated skipped)

theorem not_synced_error (error : String) : ¬ Synced (.error error) := by
  rintro ⟨_, _, _, h⟩
  cases h

theorem part_syncValid (config : RmmProviderConfig) (runId : Nat) (attempt : Attempt)
    (hreport : ∀ found, attempt.report = .ok found → found = assets) (s : SyncState) :
    ∃ part, Part P config.companyId assets (Synced (syncValid P config runId attempt s).2)
      s.inventory (syncValid P config runId attempt s).1.inventory part := by
  obtain ⟨part, hfirst, hleft, hcomplete⟩ := part_syncReported config runId attempt hreport s
  unfold syncValid
  simp only
  split
  next answer hanswer => exact ⟨part, hfirst, hleft, fun _ => hcomplete ⟨answer, hanswer⟩⟩
  next error herror =>
    refine ⟨part, hfirst, ?_, fun h => absurd h (not_synced_error _)⟩
    rw [inventory_finishSyncRun, hleft]

theorem part_syncProviderAssets (config : RmmProviderConfig) (attempt : Attempt)
    (hreport : ∀ found, attempt.report = .ok found → found = assets) (s : SyncState) :
    ∃ part, Part P config.companyId assets (Synced (syncProviderAssets P config attempt s).2)
      s.inventory (syncProviderAssets P config attempt s).1.inventory part := by
  have hopened := inventory_openRun config attempt.inserted s
  have hnothing : ∀ {t : SyncState} {result : Except String SyncAnswer},
      t.inventory = (openRun config attempt.inserted s).inventory → ¬ Synced result →
        ∃ part, Part P config.companyId assets (Synced result) s.inventory t.inventory part := by
    intro t result ht hresult
    rw [ht, hopened]
    exact ⟨[], part_nil _ _ hresult _⟩
  unfold syncProviderAssets
  simp only
  split
  · split
    · exact hnothing rfl (not_synced_error _)
    · split
      · exact hnothing rfl (not_synced_error _)
      · split
        · exact hnothing (inventory_finishSyncRun ..) (not_synced_error _)
        · refine hnothing (inventory_finishSyncRun ..) ?_
          rintro ⟨_, _, _, h⟩
          cases h
      · have hvalid := part_syncValid (P := P) config s.runs.drawn attempt hreport
          (openRun config attempt.inserted s)
        rw [hopened] at hvalid
        exact hvalid
  · exact hnothing rfl (not_synced_error _)

/-- Attempts that came to nothing, and the last one. -/
structure Parts (P : SyncPlatform) (companyId : String) (assets : List AssetMapping)
    (complete : Prop) (t t' : Inventory) (before : List (List Entry)) (part : List Entry) : Prop where
  first : ∀ part ∈ before, part <+: assets.zipIdx
  last : Part P companyId assets complete
    (before.foldl (fun t part => (assetUpserts P companyId).putAll part t) t) t' part

theorem parts_tryAttempts (config : RmmProviderConfig) {attempts : Nat → Attempt}
    (hreports : ∀ attempt found, (attempts attempt).report = .ok found → found = assets)
    (remaining attempt : Nat) (s : SyncState) :
    ∃ before part, Parts P config.companyId assets
      (∃ result, (tryAttempts P config attempts remaining attempt s).2 = .ok result ∧
        Synced (.ok result.answer)) s.inventory
      (tryAttempts P config attempts remaining attempt s).1.inventory before part := by
  induction remaining generalizing attempt s with
  | zero =>
    refine ⟨[], [], by simp, part_nil _ _ ?_ _⟩
    rintro ⟨result, h, -⟩
    cases h
  | succ remaining ih =>
    obtain ⟨part, hpart⟩ := part_syncProviderAssets config (attempts attempt)
      (hreports attempt) s
    unfold tryAttempts
    simp only
    split
    next answer hanswer =>
      refine ⟨[], part, by simp, hpart.first, hpart.left, ?_⟩
      rintro ⟨result, hresult, hsynced⟩
      obtain rfl := Except.ok.inj hresult
      rw [hanswer] at hpart
      exact hpart.complete hsynced
    next error herror =>
      split
      next =>
        refine ⟨[], part, by simp, hpart.first, hpart.left, ?_⟩
        rintro ⟨result, hresult, -⟩
        cases hresult
      next =>
        obtain ⟨before, last, hbefore, hlast⟩ := ih (attempt + 1)
          (syncProviderAssets P config (attempts attempt) s).1
        rw [hpart.left] at hlast
        exact ⟨part :: before, last, List.forall_mem_cons.mpr ⟨hpart.first, hbefore⟩, hlast⟩

theorem parts_runSyncWithRetry (config : RmmProviderConfig) {call : SyncCall}
    (hreports : Reports call assets) (s : SyncState) :
    ∃ before part, Parts P config.companyId assets
      (∃ result, (runSyncWithRetry P config call s).2 = .ok result ∧ Synced (.ok result.answer))
      s.inventory (runSyncWithRetry P config call s).1.inventory before part := by
  have hnothing : ∀ error : String, ∃ before part, Parts P config.companyId assets
      (∃ result : SyncResult, Except.error error = Except.ok result ∧ Synced (.ok result.answer))
      s.inventory s.inventory before part := by
    intro error
    refine ⟨[], [], by simp, part_nil _ _ ?_ _⟩
    rintro ⟨result, h, -⟩
    cases h
  unfold runSyncWithRetry
  split
  · exact hnothing _
  · split
    · exact hnothing _
    · simp only
      split <;> exact parts_tryAttempts config hreports maxAttempts 1 _

end Attempts

section Law

variable {P : SyncPlatform} {assets : List AssetMapping} {companyId : String}

theorem identified_zipIdx (h : ∀ asset ∈ assets, (serialOf asset).isSome = true) :
    ∀ entry ∈ assets.zipIdx, (assetUpserts P companyId).Identified entry := by
  intro entry hentry
  apply identified_of_serial
  apply h
  have hfirst := List.mem_map_of_mem (f := Prod.fst) hentry
  rwa [List.zipIdx_map_fst] at hfirst

theorem serial_of_twice {t : Inventory} (h : SameAssets companyId
    (syncedInventory P companyId assets (syncedInventory P companyId assets t))
    (syncedInventory P companyId assets t)) : ∀ asset ∈ assets, (serialOf asset).isSome = true := by
  intro asset hasset
  by_contra hserial
  rw [Bool.not_eq_true] at hserial
  rw [← List.zipIdx_map_fst 0 assets] at hasset
  obtain ⟨entry, hentry, rfl⟩ := List.mem_map.mp hasset
  rw [syncedInventory_eq, syncedInventory_eq] at h
  obtain ⟨row, hrow, hadded, hcompany, hactive⟩ := Upserts.exists_added
    (Q := fun row : Asset => row.companyId = companyId ∧ row.deletedAt = none)
    (fun _ _ => ⟨rfl, rfl⟩) (fun _ _ hQ => hQ) hentry (not_found_of_no_serial hserial)
    ((assetUpserts P companyId).putAll assets.zipIdx t)
  have hsecond := (h row).mp (List.mem_filter.mpr ⟨hrow, by simp [hcompany, hactive]⟩)
  have hbelow := NumberedTable.below _ row (List.mem_filter.mp hsecond).1
  exact absurd hbelow (Nat.not_lt.mpr hadded)

theorem addedOnce_afterCalls (config : RmmProviderConfig)
    (h : ∀ asset ∈ assets, (serialOf asset).isSome = true) {calls : List SyncCall}
    (hreports : ∀ call ∈ calls, Reports call assets) {since : Nat} (s : SyncState)
    (hadded : (assetUpserts P config.companyId).AddedOnce Asset.stemsFrom Prod.snd assets.zipIdx
      since s.inventory) :
    (assetUpserts P config.companyId).AddedOnce Asset.stemsFrom Prod.snd assets.zipIdx since
      (afterCalls P config calls s).inventory := by
  have hplaces : ∀ entry ∈ assets.zipIdx, ∀ other ∈ assets.zipIdx,
      entry.2 = other.2 → entry = other := by
    rintro ⟨asset, place⟩ hentry ⟨other, place'⟩ hother hplace
    rw [List.mem_zipIdx_iff_getElem?] at hentry hother
    change place = place' at hplace
    subst hplace
    have hasset : asset = other := Option.some.inj (hentry.symm.trans hother)
    rw [hasset]
  have hput : ∀ (t : Inventory) (part : List Entry), part <+: assets.zipIdx →
      (assetUpserts P config.companyId).AddedOnce Asset.stemsFrom Prod.snd assets.zipIdx since t →
        (assetUpserts P config.companyId).AddedOnce Asset.stemsFrom Prod.snd assets.zipIdx since
          ((assetUpserts P config.companyId).putAll part t) :=
    fun t part hpart ht => ht.putAll (fun _ _ => rfl) (fun _ _ => rfl) hplaces
      (identified_zipIdx h) hpart.subset
  induction calls generalizing s with
  | nil => exact hadded
  | cons call calls ih =>
    obtain ⟨hcall, hrest⟩ := List.forall_mem_cons.mp hreports
    apply ih hrest
    obtain ⟨before, part, hbefore, hlast⟩ := parts_runSyncWithRetry (P := P) config hcall s
    rw [hlast.left]
    refine hput _ part hlast.first ?_
    clear hlast
    generalize s.inventory = t at hadded
    induction before generalizing t with
    | nil => exact hadded
    | cons first before ih' =>
      obtain ⟨hfirst, hbefore⟩ := List.forall_mem_cons.mp hbefore
      exact ih' hbefore _ (hput t first hfirst hadded)

/-- Synchronising a report again changes nothing exactly where all of its assets have serial
numbers. -/
theorem rmm_sync_idempotent (P : SyncPlatform) (config : RmmProviderConfig)
    (assets : List AssetMapping) (s : SyncState) :
    SyncsOnce P config assets s ↔ ∀ asset ∈ assets, (serialOf asset).isSome = true := by
  refine ⟨fun h => serial_of_twice h.twice, fun h => ?_⟩
  have hidentified : ∀ entry ∈ assets.zipIdx,
    (assetUpserts P config.companyId).Identified entry := identified_zipIdx h
  constructor
  · rw [syncedInventory_eq, syncedInventory_eq, Upserts.putAll_putAll hidentified]
    exact fun row => Iff.rfl
  · intro call result created updated skipped hreports hresult hanswer
    obtain ⟨before, part, hbefore, hlast⟩ := parts_runSyncWithRetry (P := P) config hreports s
    have hsynced : Synced (.ok result.answer) := ⟨created, updated, skipped, congrArg _ hanswer⟩
    obtain rfl := hlast.complete ⟨result, hresult, hsynced⟩
    rw [hlast.left, Upserts.putAll_of_attempts hidentified hbefore, syncedInventory_eq]
    exact fun row => Iff.rfl
  · intro calls hreports
    have hstart : (assetUpserts P config.companyId).AddedOnce Asset.stemsFrom Prod.snd
      assets.zipIdx s.inventory.drawn s.inventory := Upserts.addedOnce_start _
    have hadded := addedOnce_afterCalls config h hreports s hstart
    have hactive : (activeAssets config.companyId (afterCalls P config calls s).inventory).Sublist
      (afterCalls P config calls s).inventory.rows := List.filter_sublist
    exact hadded.distinct.sublist ((hactive.filter _).map Asset.stemsFrom)

end Law

section Samples

theorem same_text (text : String) : decide (text = text) = true :=
  decide_eq_true rfl

def sampleSyncPlatform : SyncPlatform where
  same a b := decide (a = b)
  same_self := same_text
  keys := []
  decipher _ _ := none
  parseJson _ := .ok ()

def sampleConfig : RmmProviderConfig :=
  ⟨"config-1", "acme", "atera", "{}", true, none, none⟩

def sampleSync : SyncState :=
  ⟨⟨[], 0, fun _ hrow => absurd hrow List.not_mem_nil⟩,
    ⟨[], 0, fun _ hrow => absurd hrow List.not_mem_nil⟩, [sampleConfig], []⟩

/-- A printer, as the provider reports it, with and without its serial number. -/
def samplePrinter (serialNumber : Option String) : AssetMapping :=
  ⟨some "Printer", none, serialNumber, none, none, none, none, none, none⟩

/-- The second row of a printer that was synchronised twice. -/
theorem asset_synced_twice : ¬ ∀ (P : SyncPlatform) (config : RmmProviderConfig)
    (assets : List AssetMapping) (s : SyncState), SyncsOnce P config assets s := by
  intro hall
  have htwice := (hall sampleSyncPlatform sampleConfig [samplePrinter none] sampleSync).twice
  have hserial := serial_of_twice htwice (samplePrinter none) (List.mem_singleton_self _)
  cases hserial

end Samples
end FieldserviceIT.Rmm
