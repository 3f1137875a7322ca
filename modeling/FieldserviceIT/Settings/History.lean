import FieldserviceIT.Settings.Service
import FieldserviceIT.Lib.Histories

/-!
The settings history as an undo. What is noted is what the company was, so that writing it back
restores it wherever the rollback writes what was noted; an empty name and a missing domain it
takes for nothing noted, and settings that count as false for an incomplete version.
-/

namespace FieldserviceIT.Settings

open Common Lib

variable (P : SettingsPlatform)

section Law

def perform (request : SettingsRequest) (s : SettingsStore) : SettingsStore :=
  (settingsSystem P).alone (request.handler P) s

def contentOf (companyId : String) (s : SettingsStore) : Option Snapshot :=
  (findCompany companyId s).map Company.snapshot

/-- The rollback to an entry is carried out, and the company is again what it was. -/
structure Undoes (before now : SettingsStore) (entry : AuditLog) (actorId : Option String) :
    Prop where
  accepted : (settingsSystem P).throws
    ((SettingsRequest.rollback (some entry.companyId) entry.id actorId).handler P) now = false
  restored : contentOf entry.companyId
    (perform P (.rollback (some entry.companyId) entry.id actorId) now) =
      contentOf entry.companyId before

/-- There is nothing to undo about an empty name or a missing domain, and branding and settings
count as true. -/
structure Undoable (old current : Company) : Prop where
  name : old.name = "" → current.name = ""
  domain : old.domain = none → current.domain = none
  branding : (safeJson old.branding).truthy = true
  settings : (safeJson old.settings).truthy = true

/-- The request noted the entry. -/
structure Noted (request : SettingsRequest) (before : SettingsStore) (entry : AuditLog) :
    Prop where
  present : entry ∈ (perform P request before).auditLog.rows
  new : before.auditLog.drawn ≤ entry.id

end Law

section Requests

variable {P} {s s' : SettingsStore}

theorem alone_write (id : String) (call : Call) (company : Company) (s : SettingsStore) :
    (settingsSystem P).alone (write id call company) s = s ∨
      ∃ data, (settingsSystem P).alone (write id call company) s =
        execSettings (.update id data call company) s := by
  unfold write
  split
  · exact .inl rfl
  · split
    · exact .inl rfl
    · exact .inr ⟨_, rfl⟩

theorem perform_cases (request : SettingsRequest) (s : SettingsStore) :
    perform P request s = s ∨ ∃ id company actorId action call, truthy (some id) = true ∧
      findCompany id s = some company ∧ perform P request s =
        (settingsSystem P).alone (snapshot id actorId company action (write id call company)) s := by
  have hwith : ∀ (companyId : Option String) (rest : String → Company → SettingsProgram),
      (∀ id company, (settingsSystem P).alone (rest id company) s = s ∨ ∃ actorId action call,
        (settingsSystem P).alone (rest id company) s =
          (settingsSystem P).alone (snapshot id actorId company action (write id call company)) s) →
      (settingsSystem P).alone (withCompany companyId rest) s = s ∨
        ∃ id company actorId action call, truthy (some id) = true ∧
          findCompany id s = some company ∧
          (settingsSystem P).alone (withCompany companyId rest) s =
            (settingsSystem P).alone (snapshot id actorId company action (write id call company)) s := by
    intro companyId rest hrest
    unfold withCompany
    split
    next htruthy =>
      have hid : truthy (some (companyId.getD "")) = true := by
        cases companyId with
        | none => cases htruthy
        | some id => exact htruthy
      simp only [System.alone, settingsSystem, execSettings]
      cases hfound : findCompany (companyId.getD "") s with
      | none => exact .inl rfl
      | some company =>
        obtain hnone | ⟨actorId, action, call, hsome⟩ := hrest (companyId.getD "") company
        · exact .inl hnone
        · exact .inr ⟨_, company, actorId, action, call, hid, hfound, hsome⟩
    · exact .inl rfl
  cases request with
  | updateSettings companyId dto actorId =>
    exact hwith companyId _ fun id company => .inr ⟨actorId, _, _, rfl⟩
  | updateBranding companyId branding actorId =>
    simp only [perform, SettingsRequest.handler, updateBranding]
    refine hwith companyId _ fun id company => ?_
    split
    · exact .inl rfl
    · exact .inr ⟨actorId, _, _, rfl⟩
  | updateCustomization companyId customization actorId =>
    simp only [perform, SettingsRequest.handler, updateCustomization]
    refine hwith companyId _ fun id company => ?_
    split
    · exact .inl rfl
    · split
      · exact .inl rfl
      · exact .inr ⟨actorId, _, _, rfl⟩
  | resetCustomization companyId actorId =>
    exact hwith companyId _ fun id company => .inr ⟨actorId, _, _, rfl⟩
  | configureUploadedImage companyId field url actorId =>
    simp only [perform, SettingsRequest.handler, configureUploadedImage]
    split
    · exact hwith companyId _ fun id company => .inr ⟨actorId, _, _, rfl⟩
    · exact .inl rfl
  | rollback companyId historyId actorId =>
    simp only [perform, SettingsRequest.handler, rollback]
    refine hwith companyId _ fun id company => ?_
    simp only [System.alone]
    split
    · exact .inl rfl
    · exact .inr ⟨actorId, _, _, rfl⟩

theorem auditLog_perform (request : SettingsRequest) (s : SettingsStore) :
    (perform P request s).auditLog = s.auditLog ∨ ∃ id company actorId action,
      truthy (some id) = true ∧ findCompany id s = some company ∧
        (perform P request s).auditLog =
          s.auditLog.insert (newEntry id actorId action company.snapshot s.auditLog.drawn) rfl := by
  obtain hsame | ⟨id, company, actorId, action, call, hid, hfound, hperform⟩ :=
    perform_cases (P := P) request s
  · exact .inl (congrArg SettingsStore.auditLog hsame)
  · rw [hperform]
    unfold snapshot
    split
    · right
      refine ⟨id, company, actorId.getD "", action, hid, hfound, ?_⟩
      obtain hwrite | ⟨data, hwrite⟩ := alone_write (P := P) id call company
        (execSettings (.record id (actorId.getD "") action company.snapshot) s)
      · exact congrArg SettingsStore.auditLog hwrite
      · exact congrArg SettingsStore.auditLog hwrite
    · left
      obtain hwrite | ⟨data, hwrite⟩ := alone_write (P := P) id call company s
      · rw [hwrite]
      · rw [hwrite]
        rfl

theorem Noted.spec {request : SettingsRequest} {entry : AuditLog} (h : Noted P request s entry) :
    ∃ company, truthy (some entry.companyId) = true ∧ findCompany entry.companyId s = some company ∧
      entry.resourceType = "TENANT_SETTINGS" ∧ entry.diff = some company.snapshot ∧
      entry.id = s.auditLog.drawn ∧ (perform P request s).auditLog.rows = s.auditLog.rows ++ [entry] := by
  have hpresent := h.present
  have hnew := h.new
  obtain hsame | ⟨id, company, actorId, action, hid, hfound, hinsert⟩ :=
    auditLog_perform (P := P) request s
  · rw [hsame] at hpresent
    exact absurd (s.auditLog.below entry hpresent) (Nat.not_lt.mpr hnew)
  · rw [hinsert] at hpresent ⊢
    obtain hold | hlast := List.mem_append.mp hpresent
    · exact absurd (s.auditLog.below entry hold) (Nat.not_lt.mpr hnew)
    · obtain rfl := List.mem_singleton.mp hlast
      exact ⟨company, hid, hfound, rfl, rfl, rfl, rfl⟩

theorem companies_execSettings (op : SettingsOp) (id : String) (s : SettingsStore) :
    (findCompany id (execSettings op s)).isSome = (findCompany id s).isSome := by
  cases op with
  | read => rfl
  | record companyId actorId action snapshot => rfl
  | update id' data call seen =>
    rw [findCompany, findCompany, execSettings, updateWhere, List.find?_map, Option.isSome_map]
    congr 2
    funext row
    rw [Function.comp]
    split <;> rfl

theorem companies_alone (p : SettingsProgram) (id : String) (s : SettingsStore) :
    (findCompany id ((settingsSystem P).alone p s)).isSome = (findCompany id s).isSome := by
  induction p generalizing s with
  | done | fail => rfl
  | step op next ih => exact (ih s _).trans (companies_execSettings op id s)

/-- The history only grows, and companies stay. -/
structure Onward (s s' : SettingsStore) : Prop where
  history : ∃ more, s'.auditLog.rows = s.auditLog.rows ++ more
  companies : ∀ id, (findCompany id s').isSome = (findCompany id s).isSome

theorem Onward.perform (h : Onward s s') (request : SettingsRequest) :
    Onward s (perform P request s') := by
  refine ⟨?_, fun id => (companies_alone _ id s').trans (h.companies id)⟩
  obtain ⟨more, hmore⟩ := h.history
  obtain hsame | ⟨id, company, actorId, action, -, -, hinsert⟩ :=
    auditLog_perform (P := P) request s'
  · exact ⟨more, by rw [hsame, hmore]⟩
  · refine ⟨more ++ [newEntry id actorId action company.snapshot s'.auditLog.drawn], ?_⟩
    rw [hinsert, ← List.append_assoc, ← hmore]
    rfl

theorem onward_afterwards (requests : List SettingsRequest) (s : SettingsStore) :
    Onward s (afterwards (perform P) s requests) :=
  invariant_afterwards (fun request _ h => h.perform request) requests
    ⟨⟨[], (List.append_nil _).symm⟩, fun _ => rfl⟩

theorem Noted.found {request : SettingsRequest} {entry : AuditLog} (h : Noted P request s entry)
    (later : List SettingsRequest) :
    findEntry entry.id (afterwards (perform P) (perform P request s) later) = some entry := by
  obtain ⟨company, -, -, -, -, hid, hrows⟩ := h.spec
  obtain ⟨more, hmore⟩ := (onward_afterwards (P := P) later (perform P request s)).history
  have hold : s.auditLog.rows.find? (fun row => row.id = entry.id) = none := by
    rw [List.find?_eq_none]
    intro row hrow heq
    have hbelow := s.auditLog.below row hrow
    have hsame := of_decide_eq_true heq
    omega
  rw [findEntry, hmore, hrows, List.append_assoc, List.find?_append, hold, Option.none_or,
    List.singleton_append]
  exact List.find?_cons_of_pos (decide_eq_true rfl)

end Requests

section Rollbacks

variable {P} {s : SettingsStore} {entry : AuditLog} {old current : Company}

theorem findCompany_execUpdate (id id' : String) (data : CompanyUpdate) (call : Call)
    (seen : Company) (s : SettingsStore) :
    findCompany id' (execSettings (.update id data call seen) s) =
      if id' = id then (findCompany id' s).map fun row => row.updated data
      else findCompany id' s := by
  have hkey : ∀ row : Company, row.id = id → (row.updated data).id = id := fun _ hid => hid
  exact find_updateWhere hkey id' s.companies

theorem findCompany_update {id : String} (hfound : findCompany id s = some current)
    (data : CompanyUpdate) (call : Call) (seen : Company) :
    findCompany id (execSettings (.update id data call seen) s) = some (current.updated data) := by
  rw [findCompany_execUpdate, if_pos rfl, hfound]
  rfl

theorem snapshot_rollback (version : Snapshot) (current : Company) :
    (current.updated (rollbackUpdate version current)).snapshot =
      { version with
        name := if version.name ≠ "" then version.name else current.name
        domain := version.domain.or current.domain } :=
  rfl

theorem settingsVersion_eq (hentry : findEntry entry.id s = some entry)
    (htype : entry.resourceType = "TENANT_SETTINGS") (hdiff : entry.diff = some old.snapshot) :
    settingsVersion entry.companyId entry.id s =
      if (safeJson old.branding).truthy && (safeJson old.settings).truthy then some old.snapshot
      else none := by
  rw [settingsVersion, hentry, Option.filter_some_pos (by simp [htype]), Option.bind_some, hdiff]
  exact Option.filter_some

theorem rollback_accepted (hid : truthy (some entry.companyId) = true)
    (hcurrent : findCompany entry.companyId s = some current)
    (hversion : settingsVersion entry.companyId entry.id s = some old.snapshot)
    (actorId : Option String) :
    (settingsSystem P).throws
        ((SettingsRequest.rollback (some entry.companyId) entry.id actorId).handler P) s = false ∧
      contentOf entry.companyId (perform P (.rollback (some entry.companyId) entry.id actorId) s) =
        some { old.snapshot with
          name := if old.name ≠ "" then old.name else current.name
          domain := old.domain.or current.domain } := by
  simp only [perform, settingsSystem, SettingsRequest.handler, rollback, withCompany, hid, if_true,
    Option.getD_some, System.alone, System.throws, execSettings, hcurrent, hversion]
  unfold snapshot
  split
  · refine ⟨rfl, ?_⟩
    change Option.map Company.snapshot (findCompany entry.companyId (execSettings (.update
      entry.companyId (rollbackUpdate old.snapshot current) (.rollback old.snapshot) current)
        (execSettings (.record entry.companyId (actorId.getD "") "SETTINGS_ROLLBACK"
          current.snapshot) s))) = _
    rw [findCompany_update (s := execSettings _ s) hcurrent, Option.map_some,
      snapshot_rollback]
    rfl
  · refine ⟨rfl, ?_⟩
    change Option.map Company.snapshot (findCompany entry.companyId (execSettings (.update
      entry.companyId (rollbackUpdate old.snapshot current) (.rollback old.snapshot) current) s)) = _
    rw [findCompany_update hcurrent, Option.map_some, snapshot_rollback]
    rfl

theorem rollback_refused (hid : truthy (some entry.companyId) = true)
    (hcurrent : findCompany entry.companyId s = some current)
    (hversion : settingsVersion entry.companyId entry.id s = none) (actorId : Option String) :
    (settingsSystem P).throws
      ((SettingsRequest.rollback (some entry.companyId) entry.id actorId).handler P) s = true := by
  simp only [settingsSystem, SettingsRequest.handler, rollback, withCompany, hid, if_true,
    Option.getD_some, System.throws, execSettings, hcurrent, hversion]

theorem written_back_iff (old current : Company) :
    ({ old.snapshot with
      name := if old.name ≠ "" then old.name else current.name
      domain := old.domain.or current.domain } : Snapshot) = old.snapshot ↔
        (old.name = "" → current.name = "") ∧ (old.domain = none → current.domain = none) := by
  simp only [Company.snapshot, Snapshot.mk.injEq, and_true]
  refine and_congr ?_ ?_
  · by_cases hname : old.name = ""
    · simp [hname]
    · simp [hname]
  · cases old.domain with
    | none => simp
    | some domain => simp

/-- Rolling back to an entry, at any later time, makes the company what it was just before the
request that noted it, exactly where that is undoable; the request may itself be a rollback. -/
theorem rollback_undoes_iff (P : SettingsPlatform) (s : SettingsStore)
    (requests later : List SettingsRequest) (request : SettingsRequest) (entry : AuditLog)
    (actorId : Option String) (hnoted : Noted P request (afterwards (perform P) s requests) entry) :
    Undoes P (afterwards (perform P) s requests)
        (afterwards (perform P) s (requests ++ request :: later)) entry actorId ↔
      ∃ old current, findCompany entry.companyId (afterwards (perform P) s requests) = some old ∧
        findCompany entry.companyId (afterwards (perform P) s (requests ++ request :: later)) =
          some current ∧ Undoable old current := by
  have hrun : afterwards (perform P) s (requests ++ request :: later) =
      afterwards (perform P) (perform P request (afterwards (perform P) s requests)) later := by
    simp only [afterwards, List.foldl_append, List.foldl_cons]
  rw [hrun]
  obtain ⟨old, hid, hold, htype, hdiff, -, -⟩ := hnoted.spec
  have hentry := hnoted.found later
  have hstays := (onward_afterwards (P := P) later
    (perform P request (afterwards (perform P) s requests))).companies entry.companyId
  rw [perform, companies_alone, hold, Option.isSome_some] at hstays
  obtain ⟨current, hcurrent⟩ := Option.isSome_iff_exists.mp hstays
  change findCompany entry.companyId
    (afterwards (perform P) (perform P request (afterwards (perform P) s requests)) later) =
      some current at hcurrent
  have hversion := settingsVersion_eq hentry htype hdiff
  constructor
  · rintro ⟨haccepted, hrestored⟩
    split at hversion
    next htruthy =>
      rw [Bool.and_eq_true] at htruthy
      have hcontent := (rollback_accepted (P := P) hid hcurrent hversion actorId).2
      rw [hrestored, contentOf, hold, Option.map_some] at hcontent
      obtain ⟨hname, hdomain⟩ := (written_back_iff old current).mp (Option.some.inj hcontent).symm
      exact ⟨old, current, hold, hcurrent, ⟨hname, hdomain, htruthy.1, htruthy.2⟩⟩
    next =>
      rw [rollback_refused hid hcurrent hversion] at haccepted
      cases haccepted
  · rintro ⟨old', current', hold', hcurrent', hundoable⟩
    obtain rfl := Option.some.inj (hold.symm.trans hold')
    obtain rfl := Option.some.inj (hcurrent.symm.trans hcurrent')
    rw [hundoable.branding, hundoable.settings, Bool.and_self, if_pos rfl] at hversion
    obtain ⟨haccepted, hcontent⟩ := rollback_accepted (P := P) hid hcurrent hversion actorId
    refine ⟨haccepted, hcontent.trans ?_⟩
    rw [(written_back_iff old current).mpr ⟨hundoable.name, hundoable.domain⟩, contentOf, hold,
      Option.map_some]

end Rollbacks

section Samples

def samplePlatform : SettingsPlatform where
  string value := match value with
    | .text text => text
    | _ => ""
  number _ := none
  trim text := text
  slice text _ := text
  toLowerCase text := text
  url _ := none

def sampleSettings : SettingsStore :=
  ⟨[⟨"acme", "Acme", none, none, none, none⟩], ⟨[], 0, fun _ hrow => absurd hrow List.not_mem_nil⟩,
    []⟩

def newName : SettingsRequest :=
  .updateSettings (some "acme") ⟨some "Acme Ltd", none, none, none, none, none, none⟩ (some "ana")

def givingDomain : SettingsRequest :=
  .updateSettings (some "acme") ⟨none, some (some "acme.example"), none, none, none, none, none⟩
    (some "ana")

def sampleEntry : AuditLog :=
  newEntry "acme" "ana" "SETTINGS_UPDATE" ⟨"Acme", none, none, .object [], .object []⟩ 0

theorem noted_newName : Noted samplePlatform newName sampleSettings sampleEntry :=
  ⟨List.mem_singleton_self _, Nat.le_refl 0⟩

theorem noted_givingDomain : Noted samplePlatform givingDomain sampleSettings sampleEntry :=
  ⟨List.mem_singleton_self _, Nat.le_refl 0⟩

/-- A new name is taken back. -/
theorem rollback_undoes_newName : Undoes samplePlatform sampleSettings
    (perform samplePlatform newName sampleSettings) sampleEntry (some "ana") :=
  (rollback_undoes_iff samplePlatform sampleSettings [] [] newName sampleEntry (some "ana")
    noted_newName).mpr ⟨⟨"acme", "Acme", none, none, none, none⟩,
      ⟨"acme", "Acme Ltd", none, none, none, none⟩, rfl, rfl,
      ⟨fun h => by simp at h, fun _ => rfl, rfl, rfl⟩⟩

/-- A domain that was not there before is kept. -/
theorem domain_not_undone : ¬ ∀ (P : SettingsPlatform) (s : SettingsStore)
    (request : SettingsRequest) (entry : AuditLog) (actorId : Option String),
    Noted P request s entry → Undoes P s (perform P request s) entry actorId := by
  intro hall
  have hundoes := hall samplePlatform sampleSettings givingDomain sampleEntry (some "ana")
    noted_givingDomain
  have hdomain := congrArg (Option.map Snapshot.domain) hundoes.restored
  have hkept : (contentOf sampleEntry.companyId (perform samplePlatform (.rollback
      (some sampleEntry.companyId) sampleEntry.id (some "ana"))
        (perform samplePlatform givingDomain sampleSettings))).map Snapshot.domain =
          some (some "acme.example") := by
    decide
  rw [hkept] at hdomain
  simp [contentOf, findCompany, sampleSettings, sampleEntry, newEntry, Company.snapshot] at hdomain

end Samples
end FieldserviceIT.Settings
