import FieldserviceIT.Cmdb.DeviceReports
import FieldserviceIT.Lib.Interleaving
import FieldserviceIT.Lib.Tables

/-!
Enrollment of devices. An administrator creates a token; a device that presents it gets an
asset and a credential, and the token is marked as used. The check of the token, the
creation of the asset and the mark are three statements, and an enrollment that breaks off
is one that is not advanced any further.
-/

namespace FieldserviceIT.Cmdb

open Access Admin Common Database Lib Sql

structure MdmEnrollmentToken where
  id : String
  companyId : String
  token : String
  deviceCategory : Option String
  ownership : Option String
  policyProfile : Option String
  expiresAt : Int
  usedAt : Option Int
  assetId : Option String
  deriving DecidableEq

/-- An asset, with the token it was enrolled from and the time it was created. -/
structure EnrolledAsset where
  id : String
  data : Payload
  enrolledFrom : Option String
  createdAt : Int

/-- `unmarked` are the tokens from which an asset was created and which are not marked as
used yet; no statement reads them. -/
structure Enrollments where
  tokens : List MdmEnrollmentToken
  assets : List EnrolledAsset
  unmarked : List String
  now : Int
  supply : Nat

/-- The request for a token, as the request check lets it through. -/
structure CreateEnrollmentTokenDto where
  ttlHours : Option ℚ
  deviceCategory : Option String
  ownership : Option String
  policyProfile : Option String

/-- Random identifiers are drawn by number. -/
structure EnrollmentPlatform where
  reading : PayloadReading
  hashing : Hashing
  randomUUID : Nat → String
  randomToken : Nat → String

section Calls

variable (P : EnrollmentPlatform)

def textOrNull : Option String → Js
  | some text => .text text
  | none => .null

def enrollmentData (dto : Payload) (enrollment : MdmEnrollmentToken) (mdmDeviceId : String)
    (deviceToken : String) (now : Int) : Payload :=
  normalizeDevicePayload P.reading
    [("name", eitherOf (eitherOf (dto.get "name") (dto.get "hostname")) (.text "Managed device")),
      ("assetType", eitherOf (eitherOf (dto.get "assetType")
        (textOrNull enrollment.deviceCategory)) (.text "LAPTOP")),
      ("deviceCategory", eitherOf (eitherOf (dto.get "deviceCategory")
        (textOrNull enrollment.deviceCategory)) (.text "LAPTOP")),
      ("ownership", eitherOf (eitherOf (dto.get "ownership") (textOrNull enrollment.ownership))
        (.text "COMPANY")),
      ("serialNumber", dto.get "serialNumber"), ("manufacturer", dto.get "manufacturer"),
      ("model", dto.get "model"), ("os", dto.get "os"), ("osVersion", dto.get "osVersion"),
      ("ipAddress", dto.get "ipAddress"), ("macAddress", dto.get "macAddress"),
      ("imei", dto.get "imei"), ("phoneNumber", dto.get "phoneNumber"),
      ("carrier", dto.get "carrier"), ("batteryLevel", dto.get "batteryLevel"),
      ("companyId", .text enrollment.companyId), ("status", .text "active"),
      ("enrollmentStatus", .text "ENROLLED"),
      ("managementMode", eitherOf (dto.get "managementMode") (.text "AGENT")),
      ("mdmProvider", eitherOf (dto.get "mdmProvider") (.text "FieldserviceIT")),
      ("mdmDeviceId", .text mdmDeviceId),
      ("mdmDeviceTokenHash", .text (hashCredential P.hashing deviceToken)),
      ("lastCheckInAt", .scalar (.instant now)),
      ("complianceStatus", eitherOf (dto.get "complianceStatus") (.text "UNKNOWN")),
      ("policyProfile", eitherOf (dto.get "policyProfile")
        (textOrNull enrollment.policyProfile))]

inductive EnrollmentOp where
  | read
  | insertToken (companyId : String) (dto : CreateEnrollmentTokenDto)
  | createAsset (enrollment : MdmEnrollmentToken) (dto : Payload)
  | markUsed (enrollmentId assetId : String)

abbrev EnrollmentProgram := Prog Enrollments EnrollmentOp

def newAssetData (enrollment : MdmEnrollmentToken) (dto : Payload) (s : Enrollments) : Payload :=
  enrollmentData P dto enrollment (P.randomUUID (s.supply + 1)) (P.randomUUID s.supply) s.now

def takesAsset (enrollment : MdmEnrollmentToken) (dto : Payload) (s : Enrollments) : Bool :=
  (assignmentsOf P.reading (newAssetData P enrollment dto s)).isSome

def newAsset (enrollment : MdmEnrollmentToken) (dto : Payload) (s : Enrollments) : EnrolledAsset where
  id := P.randomUUID (s.supply + 2)
  data := newAssetData P enrollment dto s
  enrolledFrom := some enrollment.id
  createdAt := s.now

/-- `Number(dto.ttlHours || 24)`, from 1 to 168. -/
def ttlHours (dto : CreateEnrollmentTokenDto) : ℚ :=
  let hours := match dto.ttlHours with
    | some hours => if hours = 0 then 24 else hours
    | none => 24
  if hours < 1 then 1 else if 168 < hours then 168 else hours

/-- `String(text || fallback).toUpperCase()` -/
def upperOr (fallback : String) (text : Option String) : String :=
  match text with
  | some text => P.reading.texts.toUpperCase (if text = "" then fallback else text)
  | none => P.reading.texts.toUpperCase fallback

def newToken (companyId : String) (dto : CreateEnrollmentTokenDto) (s : Enrollments) :
    MdmEnrollmentToken where
  id := P.randomUUID s.supply
  companyId := companyId
  token := hashCredential P.hashing (P.randomToken s.supply)
  deviceCategory := some (upperOr P "LAPTOP" dto.deviceCategory)
  ownership := some (upperOr P "COMPANY" dto.ownership)
  policyProfile := dto.policyProfile.filter (· ≠ "")
  expiresAt := s.now + (ttlHours dto * 60 * 60 * 1000).floor
  usedAt := none
  assetId := none

def execEnrollment (op : EnrollmentOp) (s : Enrollments) : Enrollments :=
  match op with
  | .read => s
  | .insertToken companyId dto =>
    let row := newToken P companyId dto s
    -- neither the id nor the digest may be taken
    { s with
      tokens := if s.tokens.any fun other =>
          decide (other.id = row.id) || P.hashing.collates other.token row.token then s.tokens
        else s.tokens ++ [row]
      supply := s.supply + 1 }
  | .createAsset enrollment dto =>
    if takesAsset P enrollment dto s then
      { s with
        assets := s.assets ++ [newAsset P enrollment dto s]
        unmarked := enrollment.id :: s.unmarked
        supply := s.supply + 3 }
    else { s with supply := s.supply + 3 }
  | .markUsed enrollmentId assetId =>
    { s with
      tokens := updateWhere (fun row => row.id = enrollmentId)
        (fun row => { row with usedAt := some s.now, assetId := some assetId }) s.tokens
      unmarked := s.unmarked.filter (· ≠ enrollmentId) }

/-- `token IN (?, ?) AND usedAt IS NULL AND expiresAt > NOW()` -/
def opens (token : String) (s : Enrollments) (row : MdmEnrollmentToken) : Bool :=
  CredentialLookup.enrollWithToken.selects P.hashing token row.token && row.usedAt.isNone &&
    decide (s.now < row.expiresAt)

/-- `String(dto.token || '').trim()` -/
def presentedToken (dto : Payload) : String :=
  trimmed (stringOf (eitherOf (dto.get "token") (.text "")))

def enrollWithToken (dto : Payload) : EnrollmentProgram :=
  if presentedToken dto = "" then .fail
  else
    .step .read fun s =>
      match s.tokens.find? (opens P (presentedToken dto) s) with
      | none => .fail
      | some enrollment =>
        .step (.createAsset enrollment dto) fun s' =>
          if takesAsset P enrollment dto s' then
            .step (.markUsed enrollment.id (newAsset P enrollment dto s').id) fun _ => .done
          else .fail

inductive EnrollmentCall where
  | createEnrollmentToken (companyId : String) (dto : CreateEnrollmentTokenDto)
  | enrollWithToken (dto : Payload)

def EnrollmentCall.handler : EnrollmentCall → EnrollmentProgram
  | createEnrollmentToken companyId dto => .step (.insertToken companyId dto) fun _ => .done
  | enrollWithToken dto => Cmdb.enrollWithToken P dto

def enrollmentSystem : System Enrollments EnrollmentOp EnrollmentCall where
  exec := execEnrollment P
  tick s := { s with now := s.now + 1 }
  handler := EnrollmentCall.handler P
  sendable _ _ := True

end Calls

def createdFrom (tokenId : String) (assets : List EnrolledAsset) : List EnrolledAsset :=
  assets.filter fun asset => asset.enrolledFrom = some tokenId

/-- A token is good for one asset, which is created before it expires; as long as there is
none the token stays open, so that an enrollment can be tried again. -/
def EnrollsOnce (s : Enrollments) : Prop :=
  ∀ row ∈ s.tokens, (createdFrom row.id s.assets).length ≤ 1 ∧
    (∀ asset ∈ createdFrom row.id s.assets, asset.createdAt < row.expiresAt) ∧
      (createdFrom row.id s.assets = [] → row.usedAt = none)

/-- When the asset is created, the check of the token is still good, and no other enrollment
has created an asset from it without marking it. -/
def CheckedStill (P : EnrollmentPlatform) (op : EnrollmentOp) (s : Enrollments) : Prop :=
  match op with
  | .createAsset enrollment dto => takesAsset P enrollment dto s = true →
      ∀ row ∈ s.tokens, row.id = enrollment.id →
        row.usedAt = none ∧ s.now < row.expiresAt ∧ row.id ∉ s.unmarked
  | _ => True

/-- What a store of tokens and assets keeps. -/
structure WellKept (s : Enrollments) : Prop where
  distinct : Distinct MdmEnrollmentToken.id s.tokens
  once : EnrollsOnce s
  /-- A token that assets were created from is used, or waits for its mark. -/
  recorded : ∀ row ∈ s.tokens, createdFrom row.id s.assets ≠ [] →
    row.usedAt ≠ none ∨ row.id ∈ s.unmarked
  unmarked : ∀ id ∈ s.unmarked, createdFrom id s.assets ≠ []
  known : ∀ asset ∈ s.assets, ∀ id, asset.enrolledFrom = some id → ∃ row ∈ s.tokens, row.id = id

section Invariant

variable {P : EnrollmentPlatform} {s s' : Enrollments}

theorem createdFrom_append (tokenId : String) (assets : List EnrolledAsset) (asset : EnrolledAsset) :
    createdFrom tokenId (assets ++ [asset]) =
      createdFrom tokenId assets ++ if asset.enrolledFrom = some tokenId then [asset] else [] := by
  rw [createdFrom, createdFrom, List.filter_append]
  by_cases hfrom : asset.enrolledFrom = some tokenId <;> simp [hfrom]

theorem WellKept.createdFrom_unknown (h : WellKept s) {tokenId : String}
    (hunknown : ∀ row ∈ s.tokens, row.id ≠ tokenId) : createdFrom tokenId s.assets = [] := by
  rw [createdFrom, List.filter_eq_nil_iff]
  intro asset hasset hfrom
  obtain ⟨row, hrow, hid⟩ := h.known asset hasset tokenId (of_decide_eq_true hfrom)
  exact hunknown row hrow hid

/-- What others know of a token and its assets stays true. -/
structure Onward (s s' : Enrollments) : Prop where
  tokens : ∀ row ∈ s.tokens, ∃ row' ∈ s'.tokens, row'.id = row.id
  assets : ∀ id, createdFrom id s.assets ≠ [] → createdFrom id s'.assets ≠ []

theorem onward_exec (op : EnrollmentOp) (s : Enrollments) : Onward s (execEnrollment P op s) := by
  cases op with
  | read => exact ⟨fun row hrow => ⟨row, hrow, rfl⟩, fun _ h => h⟩
  | insertToken companyId dto =>
    refine ⟨fun row hrow => ⟨row, ?_, rfl⟩, fun _ h => h⟩
    simp only [execEnrollment]
    split
    · exact hrow
    · exact List.mem_append_left _ hrow
  | createAsset enrollment dto =>
    simp only [execEnrollment]
    split
    · refine ⟨fun row hrow => ⟨row, hrow, rfl⟩, fun id h => ?_⟩
      rw [createdFrom_append]
      exact List.append_ne_nil_of_left_ne_nil h _
    · exact ⟨fun row hrow => ⟨row, hrow, rfl⟩, fun _ h => h⟩
  | markUsed enrollmentId assetId =>
    refine ⟨fun row hrow => ⟨_, mem_updateWhere.mpr ⟨row, hrow, rfl⟩, ?_⟩, fun _ h => h⟩
    split <;> rfl

/-- How far an enrollment can be. -/
inductive EnrollmentUnderway (P : EnrollmentPlatform) (s : Enrollments) : EnrollmentProgram → Prop
  | ended {p : EnrollmentProgram} (hended : p.finished = true) : EnrollmentUnderway P s p
  | starts (call : EnrollmentCall) : EnrollmentUnderway P s ((enrollmentSystem P).handler call)
  | creates {enrollment : MdmEnrollmentToken} {dto : Payload} (hrow : ∃ row ∈ s.tokens,
      row.id = enrollment.id) : EnrollmentUnderway P s (.step (.createAsset enrollment dto) fun s' =>
        if takesAsset P enrollment dto s' then
          .step (.markUsed enrollment.id (newAsset P enrollment dto s').id) fun _ => .done
        else .fail)
  | marks {enrollmentId assetId : String} (hasset : createdFrom enrollmentId s.assets ≠ []) :
      EnrollmentUnderway P s (.step (.markUsed enrollmentId assetId) fun _ => .done)

theorem EnrollmentUnderway.later {p : EnrollmentProgram} (h : EnrollmentUnderway P s p)
    (honward : Onward s s') : EnrollmentUnderway P s' p := by
  cases h with
  | ended hended => exact .ended hended
  | starts call => exact .starts call
  | creates hrow =>
    obtain ⟨row, hrow, hid⟩ := hrow
    obtain ⟨row', hrow', hid'⟩ := honward.tokens row hrow
    exact .creates ⟨row', hrow', hid'.trans hid⟩
  | marks hasset => exact .marks (honward.assets _ hasset)

/-- The next statement of an enrollment on its way. -/
inductive EnrollmentStep (P : EnrollmentPlatform) (s : Enrollments) :
    EnrollmentOp → (Enrollments → EnrollmentProgram) → Prop
  | inserts (companyId : String) (dto : CreateEnrollmentTokenDto) :
      EnrollmentStep P s (.insertToken companyId dto) fun _ => .done
  | looksUp (dto : Payload) {next : Enrollments → EnrollmentProgram}
      (hnext : ∀ s', EnrollmentUnderway P s' (next s')) : EnrollmentStep P s .read next
  | creates {enrollment : MdmEnrollmentToken} {dto : Payload} (hrow : ∃ row ∈ s.tokens,
      row.id = enrollment.id) : EnrollmentStep P s (.createAsset enrollment dto) fun s' =>
        if takesAsset P enrollment dto s' then
          .step (.markUsed enrollment.id (newAsset P enrollment dto s').id) fun _ => .done
        else .fail
  | marks {enrollmentId assetId : String} (hasset : createdFrom enrollmentId s.assets ≠ []) :
      EnrollmentStep P s (.markUsed enrollmentId assetId) fun _ => .done

theorem underway_enrollWithToken (dto : Payload) {op : EnrollmentOp}
    {next : Enrollments → EnrollmentProgram} (hcall : enrollWithToken P dto = .step op next) :
    op = .read ∧ ∀ s', EnrollmentUnderway P s' (next s') := by
  rw [enrollWithToken] at hcall
  split at hcall
  · cases hcall
  · obtain ⟨rfl, rfl⟩ := Prog.step.inj hcall
    refine ⟨rfl, fun s' => ?_⟩
    simp only
    split
    · exact .ended rfl
    · next enrollment hfound =>
        exact .creates ⟨enrollment, List.mem_of_find?_eq_some hfound, rfl⟩

theorem EnrollmentUnderway.next_step {op : EnrollmentOp} {next : Enrollments → EnrollmentProgram}
    (h : EnrollmentUnderway P s (.step op next)) : EnrollmentStep P s op next := by
  generalize hprogram : Prog.step op next = p at h
  cases h with
  | ended hended =>
    rw [← hprogram] at hended
    cases hended
  | starts call =>
    cases call with
    | createEnrollmentToken companyId dto =>
      obtain ⟨rfl, rfl⟩ := Prog.step.inj hprogram
      exact .inserts companyId dto
    | enrollWithToken dto =>
      simp only [enrollmentSystem, EnrollmentCall.handler] at hprogram
      obtain ⟨rfl, hnext⟩ := underway_enrollWithToken dto hprogram.symm
      exact .looksUp dto hnext
  | creates hrow =>
    obtain ⟨rfl, rfl⟩ := Prog.step.inj hprogram
    exact .creates hrow
  | marks hasset =>
    obtain ⟨rfl, rfl⟩ := Prog.step.inj hprogram
    exact .marks hasset

theorem EnrollmentStep.next_underway {op : EnrollmentOp} {next : Enrollments → EnrollmentProgram}
    (h : EnrollmentStep P s op next) : EnrollmentUnderway P (execEnrollment P op s) (next s) := by
  cases h with
  | inserts companyId dto => exact .ended rfl
  | looksUp dto hnext => exact hnext s
  | @creates enrollment dto hrow =>
    simp only
    split
    next htakes =>
      refine .marks ?_
      rw [execEnrollment, if_pos htakes, createdFrom_append, newAsset, if_pos rfl]
      exact List.append_ne_nil_of_right_ne_nil _ (List.cons_ne_nil _ _)
    next => exact .ended rfl
  | marks hasset => exact .ended rfl

theorem wellKept_insertToken (h : WellKept s) (companyId : String)
    (dto : CreateEnrollmentTokenDto) : WellKept (execEnrollment P (.insertToken companyId dto) s) := by
  simp only [execEnrollment]
  split
  · exact ⟨h.distinct, h.once, h.recorded, h.unmarked, h.known⟩
  next hfree =>
    have hfresh : ∀ row ∈ s.tokens, row.id ≠ (newToken P companyId dto s).id := by
      intro row hrow hid
      refine hfree (List.any_eq_true.mpr ⟨row, hrow, ?_⟩)
      simp [hid]
    have hnone := h.createdFrom_unknown hfresh
    refine ⟨h.distinct.append hfresh, ?_, ?_, h.unmarked, ?_⟩
    · intro row hrow
      obtain hrow | hrow := List.mem_append.mp hrow
      · exact h.once row hrow
      · obtain rfl := List.mem_singleton.mp hrow
        simp only [hnone]
        exact ⟨Nat.zero_le 1, fun asset hasset => absurd hasset List.not_mem_nil, fun _ => rfl⟩
    · intro row hrow hcreated
      obtain hrow | hrow := List.mem_append.mp hrow
      · exact h.recorded row hrow hcreated
      · obtain rfl := List.mem_singleton.mp hrow
        exact absurd hnone hcreated
    · intro asset hasset id hfrom
      obtain ⟨row, hrow, hid⟩ := h.known asset hasset id hfrom
      exact ⟨row, List.mem_append_left _ hrow, hid⟩

theorem wellKept_markUsed (h : WellKept s) {enrollmentId assetId : String}
    (hasset : createdFrom enrollmentId s.assets ≠ []) :
    WellKept (execEnrollment P (.markUsed enrollmentId assetId) s) := by
  refine ⟨h.distinct.updateWhere fun _ _ => rfl, ?_, ?_, ?_, ?_⟩
  · intro row' hrow'
    obtain ⟨row, hrow, rfl⟩ := mem_updateWhere.mp hrow'
    obtain ⟨hone, hearly, hopen⟩ := h.once row hrow
    split
    next hid =>
      refine ⟨hone, hearly, fun hnone => ?_⟩
      simp only [of_decide_eq_true hid] at hnone
      exact absurd hnone hasset
    next => exact ⟨hone, hearly, hopen⟩
  · intro row' hrow' hcreated
    obtain ⟨row, hrow, rfl⟩ := mem_updateWhere.mp hrow'
    by_cases hid : row.id = enrollmentId
    · left
      simp [hid]
    · simp only [hid, decide_false, Bool.false_eq_true, if_false] at hcreated ⊢
      obtain hused | hwaits := h.recorded row hrow hcreated
      · exact .inl hused
      · exact .inr (List.mem_filter.mpr ⟨hwaits, decide_eq_true hid⟩)
  · intro id hid
    exact h.unmarked id (List.mem_filter.mp hid).1
  · intro asset hasset' id hfrom
    obtain ⟨row, hrow, hid⟩ := h.known asset hasset' id hfrom
    refine ⟨_, mem_updateWhere.mpr ⟨row, hrow, rfl⟩, ?_⟩
    split <;> exact hid

theorem enrollsOnce_createAsset_iff (h : WellKept s) {enrollment : MdmEnrollmentToken}
    {dto : Payload} :
    EnrollsOnce (execEnrollment P (.createAsset enrollment dto) s) ↔
      CheckedStill P (.createAsset enrollment dto) s := by
  simp only [execEnrollment, CheckedStill]
  split
  next htakes =>
    simp only [htakes, forall_const]
    constructor
    · intro hafter row hrow hid
      have hrow' := hafter row hrow
      simp only [createdFrom_append, newAsset, hid, if_true] at hrow'
      obtain ⟨hone, hearly, -⟩ := hrow'
      have hnone : createdFrom row.id s.assets = [] := by
        rw [List.length_append, List.length_singleton] at hone
        rw [hid]
        exact List.length_eq_zero_iff.mp (by omega)
      refine ⟨(h.once row hrow).2.2 hnone, ?_, fun hwaits => h.unmarked _ hwaits hnone⟩
      exact hearly _ (List.mem_append_right _ (List.mem_singleton.mpr rfl))
    · intro hstill row hrow
      simp only [createdFrom_append]
      by_cases hid : row.id = enrollment.id
      · obtain ⟨hopen, hearly, hwaits⟩ := hstill row hrow hid
        have hnone : createdFrom row.id s.assets = [] := by
          by_contra hcreated
          obtain hused | hwaits' := h.recorded row hrow hcreated
          · exact hused hopen
          · exact hwaits hwaits'
        have hfrom : (newAsset P enrollment dto s).enrolledFrom = some row.id :=
          congrArg some hid.symm
        rw [hnone, if_pos hfrom]
        refine ⟨Nat.le_refl 1, fun asset hasset => ?_, fun _ => hopen⟩
        obtain rfl := List.mem_singleton.mp hasset
        exact hearly
      · have hother : (newAsset P enrollment dto s).enrolledFrom ≠ some row.id :=
          fun heq => hid (Option.some.inj heq).symm
        simp only [hother, if_false, List.append_nil]
        exact h.once row hrow
  next htakes =>
    simp only [htakes, Bool.false_eq_true, false_imp_iff, iff_true]
    exact h.once

theorem wellKept_createAsset (h : WellKept s) {enrollment : MdmEnrollmentToken} {dto : Payload}
    (hrow : ∃ row ∈ s.tokens, row.id = enrollment.id)
    (hallowed : CheckedStill P (.createAsset enrollment dto) s) :
    WellKept (execEnrollment P (.createAsset enrollment dto) s) := by
  have honce := (enrollsOnce_createAsset_iff h).mpr hallowed
  simp only [execEnrollment] at honce ⊢
  split
  next htakes =>
    rw [if_pos htakes] at honce
    refine ⟨h.distinct, honce, ?_, ?_, ?_⟩
    · intro row hrow' hcreated
      by_cases hid : row.id = enrollment.id
      · exact .inr (List.mem_cons.mpr (.inl hid))
      · have hother : (newAsset P enrollment dto s).enrolledFrom ≠ some row.id :=
          fun heq => hid (Option.some.inj heq).symm
        simp only [createdFrom_append, hother, if_false, List.append_nil] at hcreated
        exact (h.recorded row hrow' hcreated).imp_right (List.mem_cons_of_mem _)
    · intro id hid
      rw [createdFrom_append]
      obtain rfl | hid := List.mem_cons.mp hid
      · rw [newAsset, if_pos rfl]
        exact List.append_ne_nil_of_right_ne_nil _ (List.cons_ne_nil _ _)
      · exact List.append_ne_nil_of_left_ne_nil (h.unmarked id hid) _
    · intro asset hasset id hfrom
      obtain hasset | hasset := List.mem_append.mp hasset
      · exact h.known asset hasset id hfrom
      · obtain rfl := List.mem_singleton.mp hasset
        obtain rfl := Option.some.inj hfrom
        exact hrow
  next => exact ⟨h.distinct, h.once, h.recorded, h.unmarked, h.known⟩

theorem EnrollmentStep.wellKept {op : EnrollmentOp} {next : Enrollments → EnrollmentProgram}
    (hstep : EnrollmentStep P s op next) (h : WellKept s) (hallowed : CheckedStill P op s) :
    WellKept (execEnrollment P op s) := by
  cases hstep with
  | inserts companyId dto => exact wellKept_insertToken h companyId dto
  | looksUp dto hnext => exact h
  | creates hrow => exact wellKept_createAsset h hrow hallowed
  | marks hasset => exact wellKept_markUsed h hasset

theorem EnrollmentStep.once_iff {op : EnrollmentOp} {next : Enrollments → EnrollmentProgram}
    (hstep : EnrollmentStep P s op next) (h : WellKept s) :
    EnrollsOnce (execEnrollment P op s) ↔ CheckedStill P op s := by
  cases hstep with
  | inserts companyId dto => exact iff_of_true (wellKept_insertToken h companyId dto).once trivial
  | looksUp dto hnext => exact iff_of_true h.once trivial
  | creates hrow => exact enrollsOnce_createAsset_iff h
  | marks hasset => exact iff_of_true (wellKept_markUsed h hasset).once trivial

theorem staged_enrollments (P : EnrollmentPlatform) :
    Staged (enrollmentSystem P) (CheckedStill P) WellKept (EnrollmentUnderway P) where
  start _ call _ _ := .starts call
  inv _ _ _ hkept hunderway hallowed := hunderway.next_step.wellKept hkept hallowed
  next _ _ _ _ hunderway _ := hunderway.next_step.next_underway
  others s op _ _ _ _ _ hother := hother.later (onward_exec op s)
  tick _ hkept := ⟨⟨hkept.distinct, hkept.once, hkept.recorded, hkept.unmarked, hkept.known⟩,
    fun _ hunderway => hunderway.later ⟨fun row hrow => ⟨row, hrow, rfl⟩, fun _ h => h⟩⟩

/-- A token is good for one asset as long as its check still holds when the asset is
created, and from then on it is not. -/
theorem enrollment_single_use (P : EnrollmentPlatform) {c₀ c : Config Enrollments EnrollmentOp}
    (hidle : c₀.threads = []) (hkept : WellKept c₀.shared)
    (hrun : (enrollmentSystem P).Run (CheckedStill P) c₀ c) :
    EnrollsOnce c.shared ∧ ∀ op next, Prog.step op next ∈ c.threads →
      (EnrollsOnce ((enrollmentSystem P).exec op c.shared) ↔ CheckedStill P op c.shared) := by
  obtain ⟨hkept', hunderway⟩ := (staged_enrollments P).run hidle hrun hkept
  exact ⟨hkept'.once, fun op next hthread => (hunderway _ hthread).next_step.once_iff hkept'⟩

end Invariant

section Samples

def sampleEnrollmentToken : String := "mdm_7d1f0b6c"

def enrollmentDigests : List (String × String) :=
  [(sampleEnrollmentToken, "c46ee354f325f53bfa502767bb1af54bd0417ab334eef5f5563c6d9bff636971")]

theorem enrollmentDigests_nodup : (enrollmentDigests.map (·.2)).Nodup := by
  decide

theorem enrollmentDigests_hex : ∀ p ∈ enrollmentDigests, p.2.toList.head? ≠ some 'x' := by
  decide

def sampleEnrollmentPlatform : EnrollmentPlatform where
  reading := sampleReading
  hashing := tableHashing enrollmentDigests enrollmentDigests_nodup enrollmentDigests_hex
  randomUUID n := String.ofList (List.replicate n 'u')
  randomToken n := String.ofList (List.replicate n 't')

def enrollmentStart : Config Enrollments EnrollmentOp :=
  ⟨⟨[⟨"enrollment-1", "company-1", "sha256:c46ee354f325f53bfa502767bb1af54bd0417ab334eef5f5563c6d9bff636971", some "LAPTOP", some "COMPANY", none, 10, none,
      none⟩], [], [], 0, 0⟩, []⟩

theorem wellKept_enrollmentStart : WellKept enrollmentStart.shared := by
  refine ⟨List.nodup_singleton _, fun row hrow => ?_, fun row hrow hcreated => absurd rfl hcreated,
    fun id hid => absurd hid List.not_mem_nil, fun asset hasset => absurd hasset List.not_mem_nil⟩
  obtain rfl := List.mem_singleton.mp hrow
  exact ⟨Nat.zero_le 1, fun asset hasset => absurd hasset List.not_mem_nil, fun _ => rfl⟩

/-- `CheckedStill`, as a test. -/
def isCheckedStill (P : EnrollmentPlatform) (op : EnrollmentOp) (s : Enrollments) : Bool :=
  match op with
  | .createAsset enrollment dto => !takesAsset P enrollment dto s || s.tokens.all fun row =>
    row.id != enrollment.id ||
      (row.usedAt.isNone && decide (s.now < row.expiresAt) && !s.unmarked.contains row.id)
  | _ => true

theorem checkedStill_of_test {P : EnrollmentPlatform} {op : EnrollmentOp} {s : Enrollments}
    (h : isCheckedStill P op s = true) : CheckedStill P op s := by
  cases op with
  | createAsset enrollment dto =>
    intro htakes row hrow hid
    rw [isCheckedStill, htakes, Bool.not_true, Bool.false_or] at h
    have hrow := List.all_eq_true.mp h row hrow
    simp only [hid, bne_self_eq_false, Bool.false_or, Bool.and_eq_true, Option.isNone_iff_eq_none,
      decide_eq_true_eq, Bool.not_eq_true', List.contains_eq_mem, decide_eq_false_iff_not]
      at hrow
    exact ⟨hrow.1.1, hrow.1.2, hid ▸ hrow.2⟩
  | _ => trivial

def sampleEnrollment : Payload :=
  [("token", .text sampleEnrollmentToken), ("hostname", .text "laptop-1")]

/-- An enrollment, and another one with the same token that is turned away. -/
theorem enrollment_single_use_twice : ∃ c, (enrollmentSystem sampleEnrollmentPlatform).Run
    (CheckedStill sampleEnrollmentPlatform) enrollmentStart c ∧
      (createdFrom "enrollment-1" c.shared.assets).length = 1 ∧ EnrollsOnce c.shared := by
  have hplay : ((enrollmentSystem sampleEnrollmentPlatform).play (fun _ _ => true)
      (isCheckedStill sampleEnrollmentPlatform) enrollmentStart
      [.start (.enrollWithToken sampleEnrollment), .run 0, .run 0, .run 0,
        .start (.enrollWithToken sampleEnrollment), .run 1]).any (fun c =>
          decide ((createdFrom "enrollment-1" c.shared.assets).length = 1)) = true := by
    decide
  obtain ⟨c, hrun, hcheck⟩ := System.exists_run_of_play (fun _ _ _ => trivial)
    (fun _ _ => checkedStill_of_test) hplay
  exact ⟨c, hrun, of_decide_eq_true hcheck,
    (enrollment_single_use sampleEnrollmentPlatform rfl wellKept_enrollmentStart hrun).1⟩

/-- Two devices with one token, both of which have it checked before either gets its asset. -/
theorem enrollment_token_used_twice : ¬ ∀ (P : EnrollmentPlatform)
    (c₀ c : Config Enrollments EnrollmentOp), c₀.threads = [] → WellKept c₀.shared →
      (enrollmentSystem P).Run (fun _ _ => True) c₀ c → EnrollsOnce c.shared := by
  intro hall
  have hplay : ((enrollmentSystem sampleEnrollmentPlatform).play (fun _ _ => true)
      (fun _ _ => true) enrollmentStart
      [.start (.enrollWithToken sampleEnrollment), .start (.enrollWithToken sampleEnrollment),
        .run 0, .run 1, .run 0, .run 1, .run 0, .run 1]).any (fun c =>
          decide ((createdFrom "enrollment-1" c.shared.assets).length = 2) &&
            decide ("enrollment-1" ∈ c.shared.tokens.map MdmEnrollmentToken.id)) = true := by
    decide
  obtain ⟨c, hrun, hcheck⟩ := System.exists_run_of_play (fun _ _ _ => trivial)
    (fun _ _ _ => trivial) hplay
  rw [Bool.and_eq_true] at hcheck
  obtain ⟨row, hrow, hid⟩ := List.mem_map.mp (of_decide_eq_true hcheck.2)
  have honce := (hall sampleEnrollmentPlatform enrollmentStart c rfl wellKept_enrollmentStart hrun
    row hrow).1
  rw [hid, of_decide_eq_true hcheck.1] at honce
  omega

end Samples
end FieldserviceIT.Cmdb
