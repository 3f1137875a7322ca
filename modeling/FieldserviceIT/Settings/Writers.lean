import FieldserviceIT.Settings.Fields
import FieldserviceIT.Settings.History

/-!
Partial updates of a company's settings side by side. Each of them works out whole columns from the
row it has read, and an update of the branding takes a field that its request does not have for one
that is taken away. What every field has to be afterwards is what the last call said about it that
has written; a write keeps to this exactly where nothing it leaves alone has changed since the read,
where no field is there that it drops, and where what it stores goes to objects.
-/

namespace FieldserviceIT.Settings

open Common Lib

variable (P : SettingsPlatform)

section Law

/-- The partial updates alone: a reset and a rollback give no field. -/
def SettingsRequest.isPartial : SettingsRequest → Bool
  | updateSettings .. | updateBranding .. | updateCustomization .. | configureUploadedImage .. => true
  | resetCustomization .. | rollback .. => false

def writerSystem : System SettingsStore SettingsOp SettingsRequest :=
  { settingsSystem P with
    sendable := fun _ request => request.isPartial = true }

def fieldOf (id : String) (f : Field) (s : SettingsStore) : Option Json :=
  (findCompany id s).bind f.value

/-- What the last of the completed calls says about a field that has it. -/
def lastGiven (id : String) (f : Field) (completed : List (String × Call)) :
    Option (Option Json) :=
  completed.findSome? fun written => if written.1 = id then written.2.given f else none

/-- What has been given is there, and everything else is what it was. -/
def FieldsKept (s₀ s : SettingsStore) : Prop :=
  ∀ id f, fieldOf id f s = (lastGiven id f s.completed).getD (fieldOf id f s₀)

/-- The write of a call that has seen one row and finds another. -/
structure Undisturbed (data : CompanyUpdate) (call : Call) (seen row : Company) : Prop where
  current : ∀ f, data.sets f = true → call.given f = none → call.drops f = false →
    f.value seen = f.value row
  complete : ∀ f, call.drops f = true → f.value row = none
  lands : call.lands seen = true

def WritesUndisturbed : SettingsOp → SettingsStore → Prop
  | .update id data call seen, s => ∀ row, findCompany id s = some row → Undisturbed data call seen row
  | .read, _ | .record .., _ => True

end Law

section Calls

def Call.isPartial : Call → Bool
  | settings _ | branding _ _ | customization _ => true
  | image field _ => imageFields.contains field
  | reset | rollback _ => false

variable {call : Call} {data : CompanyUpdate} {seen row : Company}

theorem sets_of_given (hupdate : call.update seen = some data) {f : Field}
    (h : (call.given f).isSome = true) : data.sets f = true := by
  cases call with
  | settings dto =>
    obtain rfl := Option.some.inj hupdate
    rw [Call.given, Option.isSome_map] at h
    exact sets_of_given_settings h
  | branding input sanitized =>
    obtain rfl := Option.some.inj hupdate
    exact sets_of_given_branding h
  | customization sanitized =>
    rw [Call.given, Option.isSome_map] at h
    exact sets_of_given_customization hupdate h
  | image field url =>
    rw [Call.given, Option.isSome_map] at h
    exact sets_of_given_image hupdate h
  | reset | rollback snapshot => cases h

theorem sets_of_drops (hupdate : call.update seen = some data) {f : Field}
    (h : call.drops f = true) : data.sets f = true := by
  cases call with
  | branding input sanitized =>
    obtain rfl := Option.some.inj hupdate
    cases f with
    | branding key => rfl
    | name | domain | logo | settings field => cases h
  | settings dto | customization sanitized | image field url | reset | rollback snapshot => cases h

theorem given_of_drops {f : Field} (h : call.drops f = true) : call.given f = none := by
  cases call with
  | branding input sanitized =>
    cases f with
    | branding key =>
      rw [Call.drops, Option.any_eq_true] at h
      obtain ⟨value, hlookup, hnot⟩ := h
      rw [Call.given, givenBranding, hlookup]
      exact Option.filter_some_neg ((Bool.not_eq_true' _).mp hnot)
    | name | domain | logo | settings field => cases h
  | settings dto | customization sanitized | image field url | reset | rollback snapshot => cases h

theorem value_update (hupdate : call.update seen = some data) (hpart : call.isPartial = true)
    (hlands : call.lands seen = true) {f : Field} (hsets : data.sets f = true) :
    data.value f = call.merged seen f := by
  cases call with
  | settings dto =>
    obtain rfl := Option.some.inj hupdate
    exact value_settingsUpdate hsets
  | branding input sanitized =>
    obtain rfl := Option.some.inj hupdate
    exact value_brandingUpdate hsets
  | customization sanitized => exact value_customizationUpdate hupdate hlands hsets
  | image field url => exact value_imageUpdate hupdate hlands hsets
  | reset | rollback snapshot => cases hpart

theorem not_stored (hupdate : call.update seen = some data) (hpart : call.isPartial = true)
    (hlands : call.lands seen = false) :
    ∃ f value, call.given f = some (some value) ∧ data.sets f = true ∧ data.value f = none := by
  cases call with
  | settings dto | branding input sanitized => cases hlands
  | reset | rollback snapshot => cases hpart
  | customization sanitized =>
    obtain ⟨f, value, hgiven, hsets, hvalue⟩ := not_stored_customization hupdate hlands
    exact ⟨f, value, congrArg (Option.map some) hgiven, hsets, hvalue⟩
  | image field url =>
    obtain ⟨f, value, hgiven, hsets, hvalue⟩ := not_stored_image hupdate hpart hlands
    exact ⟨f, value, congrArg (Option.map some) hgiven, hsets, hvalue⟩

theorem undisturbed_iff (hupdate : call.update seen = some data) (hpart : call.isPartial = true) :
    Undisturbed data call seen row ↔
      ∀ f, f.value (row.updated data) = (call.given f).getD (f.value row) := by
  constructor
  · rintro ⟨hcurrent, hcomplete, hlands⟩ f
    rw [value_updated]
    by_cases hsets : data.sets f = true
    · rw [if_pos hsets, value_update hupdate hpart hlands hsets, Call.merged]
      cases hgiven : call.given f with
      | some value => rfl
      | none =>
        rw [Option.getD_none, Option.getD_none]
        by_cases hdrops : call.drops f = true
        · rw [if_pos hdrops, hcomplete f hdrops]
        · rw [if_neg hdrops]
          exact hcurrent f hsets hgiven (Bool.not_eq_true _ ▸ hdrops)
    · have hgiven : call.given f = none := by
        rw [← Option.not_isSome_iff_eq_none]
        exact fun h => hsets (sets_of_given hupdate h)
      rw [if_neg hsets, hgiven, Option.getD_none]
  · intro hkept
    have hlands : call.lands seen = true := by
      by_contra hnot
      obtain ⟨f, value, hgiven, hsets, hvalue⟩ :=
        not_stored hupdate hpart (Bool.not_eq_true _ ▸ hnot)
      have h := hkept f
      rw [value_updated, if_pos hsets, hvalue, hgiven] at h
      cases h
    have hmerged : ∀ f, data.sets f = true →
        call.merged seen f = (call.given f).getD (f.value row) := by
      intro f hsets
      rw [← value_update hupdate hpart hlands hsets, ← hkept f, value_updated, if_pos hsets]
    refine ⟨fun f hsets hgiven hdrops => ?_, fun f hdrops => ?_, hlands⟩
    · have h := hmerged f hsets
      rw [Call.merged, hgiven, Option.getD_none, Option.getD_none, hdrops, if_neg Bool.noConfusion] at h
      exact h
    · have h := hmerged f (sets_of_drops hupdate hdrops)
      rw [Call.merged, given_of_drops hdrops, Option.getD_none, Option.getD_none, if_pos hdrops] at h
      exact h.symm

end Calls

section Runs

variable {P} {s s' s₀ : SettingsStore}

/-- What is known of an operation before it is carried out: an update is what its call worked out,
and the company is there. -/
def WorkedOut : SettingsOp → SettingsStore → Prop
  | .update id data call seen, s =>
    call.update seen = some data ∧ call.isPartial = true ∧ (findCompany id s).isSome = true
  | .read, _ | .record .., _ => True

def CompaniesStay (s s' : SettingsStore) : Prop :=
  ∀ id, (findCompany id s').isSome = (findCompany id s).isSome

theorem findCompany_update_of_ne {id id' : String} (hne : id' ≠ id) (data : CompanyUpdate)
    (call : Call) (seen : Company) :
    findCompany id' (execSettings (.update id data call seen) s) = findCompany id' s := by
  rw [findCompany_execUpdate, if_neg hne]

theorem lastGiven_update (id id' : String) (f : Field) (call : Call)
    (completed : List (String × Call)) : lastGiven id' f ((id, call) :: completed) =
      if id = id' then (call.given f).or (lastGiven id' f completed)
      else lastGiven id' f completed := by
  rw [lastGiven, List.findSome?_cons]
  by_cases hid : id = id'
  · rw [if_pos hid, if_pos hid]
    cases call.given f <;> rfl
  · rw [if_neg hid, if_neg hid]
    rfl

theorem getD_or (given last : Option (Option Json)) (old : Option Json) :
    (given.or last).getD old = given.getD (last.getD old) := by
  cases given <;> rfl

theorem fieldsKept_update_iff (hkept : FieldsKept s₀ s) {id : String} {data : CompanyUpdate}
    {call : Call} {seen : Company}
    (hworked : WorkedOut (.update id data call seen) s) :
    FieldsKept s₀ (execSettings (.update id data call seen) s) ↔
      WritesUndisturbed (.update id data call seen) s := by
  obtain ⟨hupdate, hpart, hsome⟩ := hworked
  obtain ⟨row, hfound⟩ := Option.isSome_iff_exists.mp hsome
  have hfield : ∀ f, (fieldOf id f (execSettings (.update id data call seen) s) =
      (lastGiven id f ((id, call) :: s.completed)).getD (fieldOf id f s₀)) ↔
        f.value (row.updated data) = (call.given f).getD (f.value row) := by
    intro f
    have hold := hkept id f
    rw [fieldOf, hfound, Option.bind_some] at hold
    rw [lastGiven_update, if_pos rfl, getD_or, ← hold, fieldOf, findCompany_update hfound,
      Option.bind_some]
  constructor
  · intro h row' hfound'
    obtain rfl := Option.some.inj (hfound.symm.trans hfound')
    rw [undisturbed_iff hupdate hpart]
    exact fun f => (hfield f).mp (h id f)
  · intro h id' f
    have hundisturbed := (undisturbed_iff hupdate hpart).mp (h row hfound)
    by_cases hid : id = id'
    · subst hid
      exact (hfield f).mpr (hundisturbed f)
    · change fieldOf id' f _ = (lastGiven id' f ((id, call) :: s.completed)).getD _
      rw [lastGiven_update, if_neg hid, fieldOf, findCompany_update_of_ne (Ne.symm hid)]
      exact hkept id' f

theorem fieldsKept_exec_iff (hkept : FieldsKept s₀ s) {op : SettingsOp} (hworked : WorkedOut op s) :
    FieldsKept s₀ (execSettings op s) ↔ WritesUndisturbed op s := by
  cases op with
  | read => exact ⟨fun _ => trivial, fun _ => hkept⟩
  | record companyId actorId action noted => exact ⟨fun _ => trivial, fun _ => hkept⟩
  | update id data call seen => exact fieldsKept_update_iff hkept hworked

/-- A program that is good whatever comes next. -/
abbrev Writes (P : SettingsPlatform) (s₀ : SettingsStore) (p : SettingsProgram)
    (s : SettingsStore) : Prop :=
  p.Safe (writerSystem P) (fun _ _ => True) (FieldsKept s₀) CompaniesStay WorkedOut
    (fun _ => True) s

theorem writes_fail : Writes P s₀ .fail s :=
  fun _ _ _ => trivial

theorem writes_write {id : String} {call : Call} (hpart : call.isPartial = true)
    (company : Company) (hfound : (findCompany id s).isSome = true) :
    Writes P s₀ (write id call company) s := by
  unfold write
  split
  next => exact writes_fail
  next data hupdate =>
    split
    · exact writes_fail
    · intro s' hstay _ _
      exact ⟨⟨hupdate, hpart, (hstay id).trans hfound⟩, fun _ _ _ => trivial⟩

theorem writes_snapshot {id : String} {rest : SettingsProgram} (actorId : Option String)
    (company : Company) (action : String) (hfound : (findCompany id s).isSome = true)
    (hrest : ∀ s', (findCompany id s').isSome = true → Writes P s₀ rest s') :
    Writes P s₀ (snapshot id actorId company action rest) s := by
  unfold snapshot
  split
  · intro s' hstay _ _
    exact ⟨trivial, hrest _ ((hstay id).trans hfound)⟩
  · exact hrest s hfound

theorem writes_withCompany {rest : String → Company → SettingsProgram} (companyId : Option String)
    (hrest : ∀ id company s', (findCompany id s').isSome = true → Writes P s₀ (rest id company) s') :
    Writes P s₀ (withCompany companyId rest) s := by
  unfold withCompany
  split
  · intro s' _ _ _
    refine ⟨trivial, ?_⟩
    beta_reduce
    split
    next => exact writes_fail
    next company hfound => exact hrest _ company s' (Option.isSome_of_eq_some hfound)
  · exact writes_fail

theorem writes_handler {request : SettingsRequest} (hpart : request.isPartial = true) :
    Writes P s₀ (request.handler P) s := by
  cases request with
  | updateSettings companyId dto actorId =>
    exact writes_withCompany companyId fun id company s' hfound =>
      writes_snapshot actorId company _ hfound fun s'' => writes_write rfl company
  | updateBranding companyId branding actorId =>
    simp only [SettingsRequest.handler, updateBranding]
    refine writes_withCompany companyId fun id company s' hfound => ?_
    split
    · exact writes_fail
    · exact writes_snapshot actorId company _ hfound fun s'' => writes_write rfl company
  | updateCustomization companyId customization actorId =>
    simp only [SettingsRequest.handler, updateCustomization]
    refine writes_withCompany companyId fun id company s' hfound => ?_
    split
    · exact writes_fail
    · split
      · exact writes_fail
      · exact writes_snapshot actorId company _ hfound fun s'' => writes_write rfl company
  | configureUploadedImage companyId field url actorId =>
    simp only [SettingsRequest.handler, configureUploadedImage]
    split
    next hfield =>
      have himage : (Call.image field url).isPartial = true := hfield
      exact writes_withCompany companyId fun id company s' hfound =>
        writes_snapshot actorId company _ hfound fun s'' => writes_write himage company
    next => exact writes_fail
  | resetCustomization companyId actorId | rollback companyId historyId actorId => cases hpart

theorem informed_writers (P : SettingsPlatform) (s₀ : SettingsStore) :
    Informed (writerSystem P) WritesUndisturbed (FieldsKept s₀) CompaniesStay WorkedOut where
  refl _ _ := rfl
  trans h h' id := (h' id).trans (h id)
  exec hkept hallowed hworked :=
    ⟨(fieldsKept_exec_iff hkept hworked).mpr hallowed, fun id => companies_execSettings _ id _⟩
  tick hkept := ⟨hkept, fun _ => rfl⟩
  handler _ hsend := writes_handler hsend

/-- In every run whose writes are undisturbed, each field is what was last given, or what it was
at the start; and each write under way keeps this exactly where it is undisturbed. -/
theorem fields_kept_when_undisturbed (P : SettingsPlatform)
    {c₀ c : Config SettingsStore SettingsOp} (hidle : c₀.threads = [])
    (hfresh : c₀.shared.completed = [])
    (hrun : (writerSystem P).Run WritesUndisturbed c₀ c) :
    FieldsKept c₀.shared c.shared ∧ ∀ op next, Prog.step op next ∈ c.threads →
      (FieldsKept c₀.shared (execSettings op c.shared) ↔ WritesUndisturbed op c.shared) := by
  have hstart : FieldsKept c₀.shared c₀.shared := by
    intro id f
    rw [hfresh]
    rfl
  obtain ⟨hkept, hworked⟩ := (informed_writers P c₀.shared).run hidle hrun hstart
  exact ⟨hkept, fun op next hthread => fieldsKept_exec_iff hkept (hworked op next hthread)⟩

end Runs

section Samples

/-- A write by a call that has seen nothing stored and finds nothing stored. -/
def nothingStored (data : CompanyUpdate) (call : Call) (seen row : Company) : Bool :=
  call.lands seen && (seen.branding.isNone && seen.settings.isNone && row.branding.isNone &&
    row.settings.isNone) && (data.name.isNone || decide (seen.name = row.name)) &&
    (data.domain.isNone || decide (seen.domain = row.domain)) &&
    (data.logo.isNone || decide (seen.logo = row.logo))

def findsNothingStored : SettingsOp → SettingsStore → Bool
  | .update id data call seen, s => (findCompany id s).all (nothingStored data call seen)
  | .read, _ | .record .., _ => true

theorem value_of_nothing {seen row : Company} {f : Field} (hbranding : seen.branding = none)
    (hsettings : seen.settings = none) (hbranding' : row.branding = none)
    (hsettings' : row.settings = none) (hname : f = .name → seen.name = row.name)
    (hdomain : f = .domain → seen.domain = row.domain) (hlogo : f = .logo → seen.logo = row.logo) :
    f.value seen = f.value row := by
  cases f with
  | name => rw [Field.value, Field.value, hname rfl]
  | domain => rw [Field.value, Field.value, hdomain rfl]
  | logo => rw [Field.value, Field.value, hlogo rfl]
  | branding key => rw [Field.value, Field.value, hbranding, hbranding']
  | settings field => rw [Field.value, Field.value, hsettings, hsettings']

theorem drops_only_branding {call : Call} {f : Field} (h : call.drops f = true) :
    ∃ key, f = .branding key := by
  cases call with
  | branding input sanitized =>
    cases f with
    | branding key => exact ⟨key, rfl⟩
    | name | domain | logo | settings field => cases h
  | settings dto | customization sanitized | image field url | reset | rollback snapshot => cases h

theorem undisturbed_of_nothing {data : CompanyUpdate} {call : Call} {seen row : Company}
    (h : nothingStored data call seen row = true) : Undisturbed data call seen row := by
  simp only [nothingStored, Bool.and_eq_true, Bool.or_eq_true, Option.isNone_iff_eq_none,
    decide_eq_true_eq] at h
  obtain ⟨⟨⟨⟨hlands, ⟨⟨hbranding, hsettings⟩, hbranding'⟩, hsettings'⟩, hname⟩, hdomain⟩, hlogo⟩ := h
  refine ⟨fun f hsets _ _ => ?_, fun f hdrops => ?_, hlands⟩
  · apply value_of_nothing hbranding hsettings hbranding' hsettings'
    · rintro rfl
      exact hname.resolve_left fun hnone => by rw [CompanyUpdate.sets, hnone] at hsets; cases hsets
    · rintro rfl
      exact hdomain.resolve_left fun hnone => by rw [CompanyUpdate.sets, hnone] at hsets; cases hsets
    · rintro rfl
      exact hlogo.resolve_left fun hnone => by rw [CompanyUpdate.sets, hnone] at hsets; cases hsets
  · obtain ⟨key, rfl⟩ := drops_only_branding hdrops
    rw [Field.value, hbranding']
    rfl

theorem undisturbed_of_test {op : SettingsOp} {s : SettingsStore}
    (h : findsNothingStored op s = true) : WritesUndisturbed op s := by
  cases op with
  | read | record companyId actorId action noted => trivial
  | update id data call seen =>
    intro row hfound
    rw [findsNothingStored, hfound] at h
    exact undisturbed_of_nothing h

def newColor : SettingsRequest :=
  .updateBranding (some "acme") (.object [("primaryColor", .text "#112233")]) (some "ben")

def hasText (text : String) : Option Json → Bool
  | some (.text value) => value = text
  | _ => false

theorem eq_of_hasText {text : String} {value : Option Json} (h : hasText text value = true) :
    value = some (.text text) := by
  unfold hasText at h
  split at h
  · rw [of_decide_eq_true h]
  · cases h

/-- A new name and a new colour side by side: both are there at the end. -/
theorem fields_kept_side_by_side :
    ∃ c : Config SettingsStore SettingsOp, FieldsKept sampleSettings c.shared ∧
      fieldOf "acme" .name c.shared = some (.text "Acme Ltd") ∧
      fieldOf "acme" (.branding "primaryColor") c.shared = some (.text "#112233") := by
  have hplay : ((writerSystem samplePlatform).play (fun _ request => request.isPartial)
      findsNothingStored ⟨sampleSettings, []⟩
      [.start newName, .start newColor, .run 0, .run 1, .run 0, .run 1, .run 0, .run 1]).any
        (fun c => hasText "Acme Ltd" (fieldOf "acme" .name c.shared) &&
          hasText "#112233" (fieldOf "acme" (.branding "primaryColor") c.shared)) = true := by
    decide
  obtain ⟨c, hrun, hcheck⟩ :=
    System.exists_run_of_play (fun _ _ h => h) (fun _ _ => undisturbed_of_test) hplay
  rw [Bool.and_eq_true] at hcheck
  exact ⟨c, (fields_kept_when_undisturbed samplePlatform rfl rfl hrun).1,
    eq_of_hasText hcheck.1, eq_of_hasText hcheck.2⟩

theorem below_none : ∀ row ∈ ([] : List AuditLog), row.id < 0 :=
  fun _ hrow => absurd hrow List.not_mem_nil

def brandedSettings : SettingsStore :=
  ⟨[⟨"acme", "Acme", none, none, some (some (.object [("companyName", .text "Acme")])), none⟩],
    ⟨[], 0, below_none⟩, []⟩

/-- A request for a new colour takes the name away. -/
theorem field_lost : ¬ ∀ (P : SettingsPlatform) (c₀ c : Config SettingsStore SettingsOp),
    c₀.threads = [] → c₀.shared.completed = [] →
      (writerSystem P).Run (fun _ _ => True) c₀ c → FieldsKept c₀.shared c.shared := by
  intro hall
  have hplay : ((writerSystem samplePlatform).play (fun _ request => request.isPartial)
      (fun _ _ => true) ⟨brandedSettings, []⟩ [.start newColor, .run 0, .run 0, .run 0]).any
        (fun c => (fieldOf "acme" (.branding "companyName") c.shared).isNone &&
          (lastGiven "acme" (.branding "companyName") c.shared.completed).isNone) = true := by
    decide
  obtain ⟨c, hrun, hcheck⟩ :=
    System.exists_run_of_play (fun _ _ h => h) (fun _ _ _ => trivial) hplay
  rw [Bool.and_eq_true, Option.isNone_iff_eq_none, Option.isNone_iff_eq_none] at hcheck
  have hkept := hall samplePlatform _ c rfl rfl hrun "acme" (.branding "companyName")
  rw [hcheck.1, hcheck.2] at hkept
  cases hkept

end Samples
end FieldserviceIT.Settings
