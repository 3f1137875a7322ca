import FieldserviceIT.Lib.Interleaving
import FieldserviceIT.Lib.Upserts

/-!
Dispatches of technicians. A technician's client sends states, notes, a signature and photos, each
with a call that looks the dispatch up and then writes some of its columns; the photos are one
column, which is read, extended and written back.
-/

namespace FieldserviceIT.FieldService

open Lib

inductive DispatchStatus where
  | pending
  | dispatched
  | enRoute
  | onSite
  | completed
  | cancelled
  deriving DecidableEq

def DispatchStatus.ofName : String → Option DispatchStatus
  | "DISPATCHED" => some .dispatched
  | "EN_ROUTE" => some .enRoute
  | "ON_SITE" => some .onSite
  | "COMPLETED" => some .completed
  | "CANCELLED" => some .cancelled
  | _ => none

structure Ticket where
  id : String
  companyId : Option String

structure User where
  id : String
  companyId : Option String
  role : String
  isActive : Bool
  deletedAt : Option Nat

/-- `photoUrls` is what `JSON.parse(photoUrls || '[]')` gives. -/
structure Dispatch where
  id : Nat
  ticketId : String
  technicianId : String
  companyId : String
  status : DispatchStatus
  arrivedAt : Option Nat
  completedAt : Option Nat
  notes : Option String
  customerSignature : Option String
  photoUrls : List String

/-- `added` has the photos of the calls that have written theirs. No statement reads it. -/
structure DispatchStore where
  dispatches : NumberedTable Dispatch Dispatch.id
  tickets : List Ticket
  users : List User
  now : Nat
  added : List (Nat × List String)

inductive DispatchOp where
  | read
  | create (ticketId technicianId companyId : String)
  | setStatus (id : Nat) (status : DispatchStatus) (moment : Nat)
  /-- What is undefined is not written. -/
  | setNotes (id : Nat) (notes : Option (Option String))
  | sign (id : Nat) (signature : Option (Option String)) (moment : Nat)
  | setPhotos (id : Nat) (existing photoUrls : List String)

abbrev DispatchProgram := Prog DispatchStore DispatchOp

section Statements

def newDispatch (ticketId technicianId companyId : String) (id : Nat) : Dispatch :=
  ⟨id, ticketId, technicianId, companyId, .dispatched, none, none, none, none, []⟩

def Dispatch.withStatus (status : DispatchStatus) (moment : Nat) (row : Dispatch) : Dispatch :=
  { row with
    status := status
    arrivedAt := if status = .onSite then some moment else row.arrivedAt
    completedAt := if status = .completed then some moment else row.completedAt }

def Dispatch.withNotes (notes : Option (Option String)) (row : Dispatch) : Dispatch :=
  { row with notes := notes.getD row.notes }

def Dispatch.signed (signature : Option (Option String)) (moment : Nat) (row : Dispatch) :
    Dispatch :=
  { row with
    customerSignature := signature.getD row.customerSignature
    status := .completed
    completedAt := some moment }

def Dispatch.withPhotos (photoUrls : List String) (row : Dispatch) : Dispatch :=
  { row with photoUrls := photoUrls }

/-- `UPDATE Dispatch ... WHERE id = ?` -/
def write (id : Nat) (change : Dispatch → Dispatch) (hid : ∀ row, (change row).id = row.id)
    (s : DispatchStore) : DispatchStore :=
  { s with dispatches := s.dispatches.modify (fun row => row.id = id) change hid }

def execDispatch (op : DispatchOp) (s : DispatchStore) : DispatchStore :=
  match op with
  | .read => s
  | .create ticketId technicianId companyId =>
    { s with
      dispatches := s.dispatches.insert
        (newDispatch ticketId technicianId companyId s.dispatches.drawn) rfl }
  | .setStatus id status moment => write id (Dispatch.withStatus status moment) (fun _ => rfl) s
  | .setNotes id notes => write id (Dispatch.withNotes notes) (fun _ => rfl) s
  | .sign id signature moment => write id (Dispatch.signed signature moment) (fun _ => rfl) s
  | .setPhotos id existing photoUrls =>
    { write id (Dispatch.withPhotos (existing ++ photoUrls)) (fun _ => rfl) s with
      added := (id, photoUrls) :: s.added }

end Statements

section Calls

def findDispatch (id : Nat) (s : DispatchStore) : Option Dispatch :=
  s.dispatches.rows.find? fun row => row.id = id

/-- `findFirst({ where: { id, companyId } })` -/
def withDispatch (id : Nat) (companyId : String) (rest : Dispatch → Nat → DispatchProgram) :
    DispatchProgram :=
  .step .read fun s =>
    match (findDispatch id s).filter fun row => row.companyId = companyId with
    | none => .fail
    | some row => rest row s.now

def isTechnician (companyId : String) (user : User) : Bool :=
  decide (user.companyId = some companyId) && user.deletedAt.isNone && user.isActive &&
    ["TECHNICIAN", "TENANT_ADMIN"].contains user.role

def dispatch (ticketId technicianId companyId : String) : DispatchProgram :=
  .step .read fun s =>
    if s.tickets.any fun row =>
        decide (row.id = ticketId) && decide (row.companyId = some companyId) then
      .step .read fun s =>
        if s.users.any fun row => decide (row.id = technicianId) && isTechnician companyId row then
          .step (.create ticketId technicianId companyId) fun _ => .done
        else .fail
    else .fail

/-- `toUpperCase` is a parameter. -/
def updateStatus (toUpperCase : String → String) (companyId status : String) (id : Nat)
    (rest : DispatchProgram) : DispatchProgram :=
  withDispatch id companyId fun _ now =>
    match DispatchStatus.ofName (toUpperCase status) with
    | none => .fail
    | some status => .step (.setStatus id status now) fun _ => rest

def bulkUpdateStatus (toUpperCase : String → String) (ids : List Nat) (status companyId : String) :
    DispatchProgram :=
  if ids.isEmpty then .fail
  else (ids.eraseDups.take 100).foldr (updateStatus toUpperCase companyId status) .done

def addNotes (id : Nat) (notes : Option (Option String)) (companyId : String) : DispatchProgram :=
  withDispatch id companyId fun _ _ => .step (.setNotes id notes) fun _ => .done

def addSignature (id : Nat) (signature : Option (Option String)) (companyId : String) :
    DispatchProgram :=
  withDispatch id companyId fun _ now => .step (.sign id signature now) fun _ => .done

def addPhotos (id : Nat) (photoUrls : List String) (companyId : String) : DispatchProgram :=
  withDispatch id companyId fun row _ =>
    .step (.setPhotos id row.photoUrls photoUrls) fun _ => .done

inductive DispatchCall where
  | dispatch (ticketId technicianId companyId : String)
  | updateStatus (id : Nat) (status companyId : String)
  | bulkUpdateStatus (ids : List Nat) (status companyId : String)
  | addNotes (id : Nat) (notes : Option (Option String)) (companyId : String)
  | addSignature (id : Nat) (signature : Option (Option String)) (companyId : String)
  | addPhotos (id : Nat) (photoUrls : List String) (companyId : String)

def DispatchCall.handler (toUpperCase : String → String) : DispatchCall → DispatchProgram
  | dispatch ticketId technicianId companyId =>
    FieldService.dispatch ticketId technicianId companyId
  | updateStatus id status companyId =>
    FieldService.updateStatus toUpperCase companyId status id .done
  | bulkUpdateStatus ids status companyId =>
    FieldService.bulkUpdateStatus toUpperCase ids status companyId
  | addNotes id notes companyId => FieldService.addNotes id notes companyId
  | addSignature id signature companyId => FieldService.addSignature id signature companyId
  | addPhotos id photoUrls companyId => FieldService.addPhotos id photoUrls companyId

def dispatchSystem (toUpperCase : String → String) :
    System DispatchStore DispatchOp DispatchCall where
  exec := execDispatch
  tick s := { s with now := s.now + 1 }
  handler := DispatchCall.handler toUpperCase
  sendable _ _ := True

end Calls

/-!
What has been sent about a dispatch and what is stored of it. The photos are kept as long as each
write of them extends the photos that are still stored; the status says what the other columns say
as long as nothing takes a completed dispatch back, and a cancelled one is only completed.
-/

section Law

def photosOf (id : Nat) (s : DispatchStore) : List String :=
  ((findDispatch id s).map Dispatch.photoUrls).getD []

def addedTo (id : Nat) (added : List (Nat × List String)) : List String :=
  (added.filter fun call => call.1 = id).flatMap Prod.snd

/-- What the columns of a dispatch say of each other. -/
structure Dispatch.Sound (row : Dispatch) : Prop where
  completed : row.completedAt.isSome = true ↔ row.status = .completed
  signed : row.customerSignature.isSome = true → row.status = .completed

def Sound (s : DispatchStore) : Prop :=
  ∀ id row, findDispatch id s = some row → row.Sound

structure EvidenceKept (s₀ s : DispatchStore) : Prop where
  photos : ∀ id, (photosOf id s).Perm (photosOf id s₀ ++ addedTo id s.added)
  sound : Sound s

def DispatchStatus.Ended (status : DispatchStatus) : Prop :=
  status = .completed ∨ status = .cancelled

def StaysEnded (s s' : DispatchStore) : Prop :=
  ∀ id row, findDispatch id s = some row → row.status.Ended →
    ∃ row', findDispatch id s' = some row' ∧ row'.status.Ended

def Undisturbed : DispatchOp → DispatchStore → Prop
  | .setStatus id status _, s => ∀ row, findDispatch id s = some row →
      (row.status = .completed → status = .completed) ∧
        (row.status = .cancelled → status = .cancelled ∨ status = .completed)
  | .setPhotos id existing _, s => existing.Perm (photosOf id s)
  | .read, _ | .create .., _ | .setNotes .., _ | .sign .., _ => True

def Grounded : DispatchOp → DispatchStore → Prop
  | .setStatus id _ _, s | .setNotes id _, s | .sign id _ _, s | .setPhotos id _ _, s =>
    (findDispatch id s).isSome = true
  | .read, _ | .create .., _ => True

/-- Dispatches that are there stay, and what has ended stays ended. -/
structure Later (s s' : DispatchStore) : Prop where
  found : ∀ id, (findDispatch id s).isSome = true → (findDispatch id s').isSome = true
  ended : StaysEnded s s'

end Law

section Writes

variable {s s₀ : DispatchStore} {id : Nat} (change : Dispatch → Dispatch)

theorem findDispatch_write (hid : ∀ row, (change row).id = row.id) (id' : Nat) :
    findDispatch id' (write id change hid s) =
      if id' = id then (findDispatch id' s).map change else findDispatch id' s :=
  find_updateWhere (fun row hrow => (hid row).trans hrow) id' s.dispatches.rows

theorem findDispatch_create (ticketId technicianId companyId : String) (id : Nat) :
    findDispatch id (execDispatch (.create ticketId technicianId companyId) s) =
      (findDispatch id s).or (if s.dispatches.drawn = id then
        some (newDispatch ticketId technicianId companyId s.dispatches.drawn) else none) := by
  have hrows : (execDispatch (.create ticketId technicianId companyId) s).dispatches.rows =
      s.dispatches.rows ++ [newDispatch ticketId technicianId companyId s.dispatches.drawn] :=
    rfl
  rw [findDispatch, hrows, List.find?_append, findDispatch]
  congr 1
  by_cases hid : s.dispatches.drawn = id
  · rw [if_pos hid]
    exact List.find?_cons_of_pos (decide_eq_true hid)
  · rw [if_neg hid]
    exact List.find?_cons_of_neg fun h => hid (of_decide_eq_true h)

theorem photosOf_write (hid : ∀ row, (change row).id = row.id)
    (hphotos : ∀ row, (change row).photoUrls = row.photoUrls) (id' : Nat) :
    photosOf id' (write id change hid s) = photosOf id' s := by
  rw [photosOf, photosOf, findDispatch_write]
  split
  · cases findDispatch id' s with
    | none => rfl
    | some row => exact hphotos row
  · rfl

theorem photosOf_setPhotos (hfound : (findDispatch id s).isSome = true) (existing more : List String)
    (id' : Nat) : photosOf id' (execDispatch (.setPhotos id existing more) s) =
      if id' = id then existing ++ more else photosOf id' s := by
  have hwrite : findDispatch id' (execDispatch (.setPhotos id existing more) s) =
      if id' = id then (findDispatch id' s).map (Dispatch.withPhotos (existing ++ more))
      else findDispatch id' s :=
    findDispatch_write (Dispatch.withPhotos (existing ++ more)) (fun _ => rfl) id'
  rw [photosOf, hwrite]
  by_cases hid : id' = id
  · subst hid
    obtain ⟨row, hrow⟩ := Option.isSome_iff_exists.mp hfound
    rw [if_pos rfl, if_pos rfl, hrow]
    rfl
  · rw [if_neg hid, if_neg hid, photosOf]

theorem photosOf_create (ticketId technicianId companyId : String) (id : Nat) :
    photosOf id (execDispatch (.create ticketId technicianId companyId) s) = photosOf id s := by
  rw [photosOf, photosOf, findDispatch_create]
  cases findDispatch id s with
  | some row => rfl
  | none =>
    rw [Option.none_or]
    split <;> rfl

theorem addedTo_cons (call : Nat × List String) (added : List (Nat × List String)) (id : Nat) :
    addedTo id (call :: added) = if id = call.1 then call.2 ++ addedTo id added
      else addedTo id added := by
  by_cases hid : id = call.1
  · rw [if_pos hid, addedTo, addedTo, List.filter_cons, if_pos (decide_eq_true hid.symm),
      List.flatMap_cons]
  · rw [if_neg hid, addedTo, addedTo, List.filter_cons,
      if_neg fun h => hid (of_decide_eq_true h).symm]

theorem photos_setPhotos_iff
    (hkept : ∀ id, (photosOf id s).Perm (photosOf id s₀ ++ addedTo id s.added))
    (hfound : (findDispatch id s).isSome = true) (existing more : List String) :
    (∀ id', (photosOf id' (execDispatch (.setPhotos id existing more) s)).Perm
      (photosOf id' s₀ ++ addedTo id' ((id, more) :: s.added))) ↔
        existing.Perm (photosOf id s) := by
  have hthis : (existing ++ more).Perm (photosOf id s₀ ++ (more ++ addedTo id s.added)) ↔
      existing.Perm (photosOf id s) := by
    have hmoved : (photosOf id s₀ ++ (more ++ addedTo id s.added)).Perm
        (photosOf id s₀ ++ addedTo id s.added ++ more) := by
      rw [List.append_assoc]
      exact List.Perm.append_left _ List.perm_append_comm
    constructor
    · intro h
      exact ((List.perm_append_right_iff more).mp (h.trans hmoved)).trans (hkept id).symm
    · intro h
      exact ((h.trans (hkept id)).append_right more).trans hmoved.symm
  constructor
  · intro h
    have hself := h id
    rw [photosOf_setPhotos hfound, if_pos rfl, addedTo_cons, if_pos rfl] at hself
    exact hthis.mp hself
  · intro h id'
    rw [photosOf_setPhotos hfound, addedTo_cons]
    by_cases hid : id' = id
    · subst hid
      rw [if_pos rfl, if_pos rfl]
      exact hthis.mpr h
    · rw [if_neg hid, if_neg hid]
      exact hkept id'

theorem sound_write (hsound : Sound s) (hid : ∀ row, (change row).id = row.id)
    (hchange : ∀ row, findDispatch id s = some row → row.Sound → (change row).Sound) :
    Sound (write id change hid s) := by
  intro id' row' hrow'
  rw [findDispatch_write] at hrow'
  split at hrow'
  next h =>
    subst h
    obtain ⟨row, hrow, rfl⟩ := Option.map_eq_some_iff.mp hrow'
    exact hchange row hrow (hsound _ row hrow)
  next => exact hsound id' row' hrow'

theorem staysEnded_write (hid : ∀ row, (change row).id = row.id)
    (hchange : ∀ row, findDispatch id s = some row → row.status.Ended → (change row).status.Ended) :
    StaysEnded s (write id change hid s) := by
  intro id' row hrow hended
  rw [findDispatch_write]
  by_cases h : id' = id
  · subst h
    rw [if_pos rfl, hrow]
    exact ⟨_, rfl, hchange row hrow hended⟩
  · rw [if_neg h]
    exact ⟨row, hrow, hended⟩

theorem status_iff {row : Dispatch} (hsound : row.Sound) (status : DispatchStatus) (moment : Nat) :
    ((row.withStatus status moment).Sound ∧ (row.status.Ended → status.Ended)) ↔
      (row.status = .completed → status = .completed) ∧
        (row.status = .cancelled → status = .cancelled ∨ status = .completed) := by
  constructor
  · rintro ⟨hafter, hended⟩
    constructor
    · intro hcompleted
      by_contra hnot
      have hset := hsound.completed.mpr hcompleted
      have hkept : (row.withStatus status moment).completedAt = row.completedAt := if_neg hnot
      exact hnot (hafter.completed.mp (hkept ▸ hset))
    · exact fun hcancelled => (hended (.inr hcancelled)).symm
  · rintro ⟨hcompleted, hcancelled⟩
    refine ⟨⟨?_, ?_⟩, ?_⟩
    · by_cases hstatus : status = .completed
      · simp only [Dispatch.withStatus, hstatus, if_true, Option.isSome_some]
      · simp only [Dispatch.withStatus, if_neg hstatus, hsound.completed]
        exact ⟨fun h => absurd (hcompleted h) hstatus, fun h => absurd h hstatus⟩
    · exact fun hsigned => hcompleted (hsound.signed hsigned)
    · rintro (h | h)
      · exact .inl (hcompleted h)
      · exact (hcancelled h).symm

end Writes

section Operations

variable {s s₀ : DispatchStore}

theorem staysEnded_refl (s : DispatchStore) : StaysEnded s s :=
  fun _ row hrow hended => ⟨row, hrow, hended⟩

theorem evidence_write_iff (hkept : EvidenceKept s₀ s) {id : Nat} (change : Dispatch → Dispatch)
    (hid : ∀ row, (change row).id = row.id)
    (hphotos : ∀ row, (change row).photoUrls = row.photoUrls) :
    (EvidenceKept s₀ (write id change hid s) ∧ StaysEnded s (write id change hid s)) ↔
      ∀ row, findDispatch id s = some row →
        (change row).Sound ∧ (row.status.Ended → (change row).status.Ended) := by
  constructor
  · rintro ⟨hafter, hended⟩ row hrow
    have hwritten : findDispatch id (write id change hid s) = some (change row) := by
      rw [findDispatch_write, if_pos rfl, hrow]
      rfl
    refine ⟨hafter.sound id _ hwritten, fun h => ?_⟩
    obtain ⟨row', hrow', hended'⟩ := hended id row hrow h
    obtain rfl := Option.some.inj (hwritten.symm.trans hrow')
    exact hended'
  · intro h
    refine ⟨⟨fun id' => ?_, ?_⟩, ?_⟩
    · rw [photosOf_write change hid hphotos]
      exact hkept.photos id'
    · exact sound_write change hkept.sound hid fun row hrow _ => (h row hrow).1
    · exact staysEnded_write change hid fun row hrow => (h row hrow).2

theorem evidence_create (hkept : EvidenceKept s₀ s) (ticketId technicianId companyId : String) :
    EvidenceKept s₀ (execDispatch (.create ticketId technicianId companyId) s) ∧
      StaysEnded s (execDispatch (.create ticketId technicianId companyId) s) := by
  refine ⟨⟨fun id => ?_, fun id row hrow => ?_⟩, fun id row hrow hended => ?_⟩
  · rw [photosOf_create]
    exact hkept.photos id
  · rw [findDispatch_create] at hrow
    cases hfound : findDispatch id s with
    | some other =>
      rw [hfound, Option.some_or] at hrow
      obtain rfl := Option.some.inj hrow
      exact hkept.sound id _ hfound
    | none =>
      rw [hfound, Option.none_or] at hrow
      obtain ⟨-, hnew⟩ := Option.ite_none_right_eq_some.mp hrow
      obtain rfl := Option.some.inj hnew
      exact ⟨⟨fun h => Bool.noConfusion h, fun h => DispatchStatus.noConfusion h⟩,
        fun h => Bool.noConfusion h⟩
  · rw [findDispatch_create, hrow]
    exact ⟨row, rfl, hended⟩

theorem evidence_exec_iff (hkept : EvidenceKept s₀ s) {op : DispatchOp} (hgrounded : Grounded op s) :
    (EvidenceKept s₀ (execDispatch op s) ∧ StaysEnded s (execDispatch op s)) ↔ Undisturbed op s := by
  cases op with
  | read => exact ⟨fun _ => trivial, fun _ => ⟨hkept, staysEnded_refl s⟩⟩
  | create ticketId technicianId companyId =>
    exact ⟨fun _ => trivial, fun _ => evidence_create hkept _ _ _⟩
  | setStatus id status moment =>
    refine (evidence_write_iff hkept (Dispatch.withStatus status moment) (fun _ => rfl)
      fun _ => rfl).trans ?_
    refine forall₂_congr fun row hrow => ?_
    exact status_iff (hkept.sound id row hrow) status moment
  | setNotes id notes =>
    refine ⟨fun _ => trivial, fun _ => ?_⟩
    refine (evidence_write_iff hkept (Dispatch.withNotes notes) (fun _ => rfl)
      fun _ => rfl).mpr fun row hrow => ?_
    obtain ⟨hcompleted, hsigned⟩ := hkept.sound id row hrow
    exact ⟨⟨hcompleted, hsigned⟩, fun h => h⟩
  | sign id signature moment =>
    refine ⟨fun _ => trivial, fun _ => ?_⟩
    refine (evidence_write_iff hkept (Dispatch.signed signature moment) (fun _ => rfl)
      fun _ => rfl).mpr fun row hrow => ?_
    exact ⟨⟨⟨fun _ => rfl, fun _ => rfl⟩, fun _ => rfl⟩, fun _ => .inl rfl⟩
  | setPhotos id existing photoUrls =>
    have hsound : Sound (execDispatch (.setPhotos id existing photoUrls) s) := by
      refine sound_write (Dispatch.withPhotos (existing ++ photoUrls)) hkept.sound (fun _ => rfl) ?_
      intro row _ hrow
      exact ⟨hrow.completed, hrow.signed⟩
    have hended : StaysEnded s (execDispatch (.setPhotos id existing photoUrls) s) :=
      staysEnded_write (Dispatch.withPhotos (existing ++ photoUrls)) (fun _ => rfl) fun _ _ h => h
    have hphotos := photos_setPhotos_iff hkept.photos hgrounded existing photoUrls
    constructor
    · intro h
      exact hphotos.mp h.1.photos
    · intro h
      exact ⟨⟨hphotos.mpr h, hsound⟩, hended⟩

theorem found_exec (op : DispatchOp) {id : Nat} (h : (findDispatch id s).isSome = true) :
    (findDispatch id (execDispatch op s)).isSome = true := by
  have hwrite : ∀ (id' : Nat) (change : Dispatch → Dispatch)
      (hid : ∀ row, (change row).id = row.id),
      (findDispatch id (write id' change hid s)).isSome = true := by
    intro id' change hid
    rw [findDispatch_write]
    split
    · rw [Option.isSome_map]
      exact h
    · exact h
  cases op with
  | read => exact h
  | create ticketId technicianId companyId =>
    rw [findDispatch_create, Option.isSome_or, h]
    rfl
  | setStatus id' status moment => exact hwrite id' _ _
  | setNotes id' notes => exact hwrite id' _ _
  | sign id' signature moment => exact hwrite id' _ _
  | setPhotos id' existing photoUrls => exact hwrite id' (Dispatch.withPhotos _) fun _ => rfl

end Operations

section Runs

variable {toUpperCase : String → String} {s s₀ : DispatchStore}

/-- Every write of the program is one to a dispatch that is there. -/
abbrev Minds (toUpperCase : String → String) (s₀ : DispatchStore) (p : DispatchProgram)
    (s : DispatchStore) : Prop :=
  p.Safe (dispatchSystem toUpperCase) (fun _ _ => True) (EvidenceKept s₀) Later Grounded
    (fun _ => True) s

theorem minds_withDispatch {id : Nat} {companyId : String} {rest : Dispatch → Nat → DispatchProgram}
    (hrest : ∀ row s', (findDispatch id s').isSome = true →
      Minds toUpperCase s₀ (rest row s'.now) s') :
    Minds toUpperCase s₀ (withDispatch id companyId rest) s := by
  intro s' _ _ _
  refine ⟨trivial, ?_⟩
  beta_reduce
  split
  next => exact fun _ _ _ => trivial
  next row hfound =>
    have hsome := Option.eq_some_of_filter_eq_some hfound
    exact hrest row s' (Option.isSome_of_eq_some hsome)

theorem minds_write {id : Nat} (op : DispatchOp) {rest : DispatchProgram}
    (hop : ∀ s', (findDispatch id s').isSome = true → Grounded op s')
    (hfound : (findDispatch id s).isSome = true)
    (hrest : ∀ s', Minds toUpperCase s₀ rest s') :
    Minds toUpperCase s₀ (.step op fun _ => rest) s :=
  fun s' hlater _ _ => ⟨hop s' (hlater.found id hfound), hrest _⟩

theorem minds_updateStatus {companyId status : String} {id : Nat} {rest : DispatchProgram}
    (hrest : ∀ s', Minds toUpperCase s₀ rest s') :
    Minds toUpperCase s₀ (updateStatus toUpperCase companyId status id rest) s := by
  refine minds_withDispatch fun row s' hfound => ?_
  split
  next => exact fun _ _ _ => trivial
  next status' _ => exact minds_write (.setStatus id status' s'.now) (fun _ h => h) hfound hrest

theorem minds_done : Minds toUpperCase s₀ .done s :=
  fun _ _ _ => trivial

theorem minds_handler (call : DispatchCall) :
    Minds toUpperCase s₀ (call.handler toUpperCase) s := by
  cases call with
  | dispatch ticketId technicianId companyId =>
    intro s' _ _ _
    refine ⟨trivial, ?_⟩
    beta_reduce
    split
    · intro s'' _ _ _
      refine ⟨trivial, ?_⟩
      beta_reduce
      split
      · exact fun _ _ _ _ => ⟨trivial, minds_done⟩
      · exact fun _ _ _ => trivial
    · exact fun _ _ _ => trivial
  | updateStatus id status companyId => exact minds_updateStatus fun _ => minds_done
  | bulkUpdateStatus ids status companyId =>
    simp only [DispatchCall.handler, bulkUpdateStatus]
    split
    · exact fun _ _ _ => trivial
    · have hall : ∀ (ids : List Nat) s', Minds toUpperCase s₀
          (ids.foldr (updateStatus toUpperCase companyId status) .done) s' := by
        intro ids
        induction ids with
        | nil => exact fun _ => minds_done
        | cons id ids ih => exact fun s' => minds_updateStatus ih
      exact hall _ s
  | addNotes id notes companyId =>
    simp only [DispatchCall.handler, addNotes]
    refine minds_withDispatch fun row s' hfound => ?_
    exact minds_write (.setNotes id notes) (fun _ h => h) hfound fun _ => minds_done
  | addSignature id signature companyId =>
    simp only [DispatchCall.handler, addSignature]
    refine minds_withDispatch fun row s' hfound => ?_
    exact minds_write (.sign id signature s'.now) (fun _ h => h) hfound fun _ => minds_done
  | addPhotos id photoUrls companyId =>
    simp only [DispatchCall.handler, addPhotos]
    refine minds_withDispatch fun row s' hfound => ?_
    exact minds_write (.setPhotos id row.photoUrls photoUrls) (fun _ h => h) hfound fun _ => minds_done

theorem informed_dispatches (toUpperCase : String → String) (s₀ : DispatchStore) :
    Informed (dispatchSystem toUpperCase) Undisturbed (EvidenceKept s₀) Later Grounded where
  refl s := ⟨fun _ h => h, staysEnded_refl s⟩
  trans h h' := by
    refine ⟨fun id hfound => h'.found id (h.found id hfound), fun id row hrow hended => ?_⟩
    obtain ⟨row', hrow', hended'⟩ := h.ended id row hrow hended
    exact h'.ended id row' hrow' hended'
  exec hkept hallowed hgrounded := by
    obtain ⟨hafter, hended⟩ := (evidence_exec_iff hkept hgrounded).mpr hallowed
    exact ⟨hafter, fun id => found_exec _, hended⟩
  tick {s} hkept := ⟨⟨hkept.photos, hkept.sound⟩, ⟨fun _ h => h, staysEnded_refl s⟩⟩
  handler _ _ := minds_handler _

/-- In every run whose writes are undisturbed the photos of every completed call are stored once
each, the status says what the other columns say, and from any moment on what has ended stays
ended; and each write under way keeps all this exactly where it is undisturbed. -/
theorem evidence_kept_when_undisturbed (toUpperCase : String → String)
    {c₀ m c : Config DispatchStore DispatchOp} (hidle : c₀.threads = [])
    (hfresh : c₀.shared.added = []) (hsound : Sound c₀.shared)
    (hbefore : (dispatchSystem toUpperCase).Run Undisturbed c₀ m)
    (hafter : (dispatchSystem toUpperCase).Run Undisturbed m c) :
    EvidenceKept c₀.shared c.shared ∧ StaysEnded m.shared c.shared ∧
      ∀ op next, Prog.step op next ∈ c.threads →
        ((EvidenceKept c₀.shared (execDispatch op c.shared) ∧
          StaysEnded c.shared (execDispatch op c.shared)) ↔ Undisturbed op c.shared) := by
  have hstart : EvidenceKept c₀.shared c₀.shared := by
    refine ⟨fun id => ?_, hsound⟩
    rw [hfresh, addedTo, List.filter_nil, List.flatMap_nil, List.append_nil]
  have hinformed := informed_dispatches toUpperCase c₀.shared
  obtain ⟨hkept, hgrounded⟩ := hinformed.run hidle (hbefore.trans hafter) hstart
  refine ⟨hkept, (hinformed.onward hidle hbefore hafter hstart).ended, fun op next hthread => ?_⟩
  exact evidence_exec_iff hkept (hgrounded op next hthread)

end Runs

section Samples

def sampleDispatch : Dispatch :=
  ⟨0, "t1", "tom", "acme", .onSite, none, none, none, none, []⟩

theorem below_sample : ∀ row ∈ [sampleDispatch], row.id < 1 := by
  intro row hrow
  obtain rfl := List.mem_singleton.mp hrow
  exact Nat.zero_lt_one

def onSite : Config DispatchStore DispatchOp :=
  ⟨⟨⟨[sampleDispatch], 1, below_sample⟩, [], [], 9, []⟩, []⟩

theorem sound_onSite : Sound onSite.shared := by
  intro id row hrow
  have hmem : row ∈ [sampleDispatch] := List.mem_of_find?_eq_some hrow
  obtain rfl := List.mem_singleton.mp hmem
  exact ⟨⟨fun h => Bool.noConfusion h, fun h => DispatchStatus.noConfusion h⟩,
    fun h => Bool.noConfusion h⟩

/-- `Undisturbed`, as a test. -/
def isUndisturbed : DispatchOp → DispatchStore → Bool
  | .setStatus id status _, s => (findDispatch id s).all fun row =>
    (!decide (row.status = .completed) || decide (status = .completed)) &&
      (!decide (row.status = .cancelled) || decide (status = .cancelled) ||
        decide (status = .completed))
  | .setPhotos id existing _, s => decide (existing = photosOf id s)
  | .read, _ | .create .., _ | .setNotes .., _ | .sign .., _ => true

theorem undisturbed_of_test {op : DispatchOp} {s : DispatchStore} (h : isUndisturbed op s = true) :
    Undisturbed op s := by
  cases op with
  | read | create | setNotes | sign => trivial
  | setStatus id status moment =>
    intro row hrow
    rw [isUndisturbed, hrow, Option.all_some, Bool.and_eq_true] at h
    simpa [imp_iff_not_or, or_assoc] using h
  | setPhotos id existing photoUrls =>
    rw [isUndisturbed, decide_eq_true_iff] at h
    exact h ▸ List.Perm.refl _

def front : DispatchCall :=
  .addPhotos 0 ["front"] "acme"

def back : DispatchCall :=
  .addPhotos 0 ["back"] "acme"

/-- Two calls one after the other, and a signature: both photos are there. -/
theorem evidence_kept_in_turn : ∃ c : Config DispatchStore DispatchOp,
    EvidenceKept onSite.shared c.shared ∧ StaysEnded onSite.shared c.shared ∧
      photosOf 0 c.shared = ["front", "back"] := by
  have hplay : ((dispatchSystem id).play (fun _ _ => true) isUndisturbed onSite
      [.start front, .run 0, .run 0, .start back, .run 1, .run 1,
        .start (.addSignature 0 (some (some "Ana")) "acme"), .run 2, .run 2]).any
        (fun c => decide (photosOf 0 c.shared = ["front", "back"])) = true := by
    decide
  obtain ⟨c, hrun, hcheck⟩ :=
    System.exists_run_of_play (fun _ _ _ => trivial) (fun _ _ => undisturbed_of_test) hplay
  have hkept := evidence_kept_when_undisturbed id rfl rfl sound_onSite .refl hrun
  exact ⟨c, hkept.1, hkept.2.1, of_decide_eq_true hcheck⟩

/-- Two calls that have both read the photos before either writes: the first one's are lost. -/
theorem photos_lost : ¬ ∀ (toUpperCase : String → String) (c₀ c : Config DispatchStore DispatchOp),
    c₀.threads = [] → c₀.shared.added = [] → Sound c₀.shared →
      (dispatchSystem toUpperCase).Run (fun _ _ => True) c₀ c →
        EvidenceKept c₀.shared c.shared := by
  intro hall
  have hplay : ((dispatchSystem id).play (fun _ _ => true) (fun _ _ => true) onSite
      [.start front, .start back, .run 0, .run 1, .run 0, .run 1]).any
        (fun c => decide (photosOf 0 c.shared = ["back"]) &&
          decide (addedTo 0 c.shared.added = ["back", "front"])) = true := by
    decide
  obtain ⟨c, hrun, hcheck⟩ :=
    System.exists_run_of_play (fun _ _ _ => trivial) (fun _ _ _ => trivial) hplay
  rw [Bool.and_eq_true, decide_eq_true_iff, decide_eq_true_iff] at hcheck
  have hlength := ((hall id onSite c rfl rfl sound_onSite hrun).photos 0).length_eq
  rw [hcheck.1, hcheck.2, List.length_append] at hlength
  have hsmall : 2 ≤ (photosOf 0 onSite.shared).length + ["back", "front"].length :=
    Nat.le_add_left 2 _
  rw [← hlength] at hsmall
  exact absurd hsmall (by decide)

end Samples
end FieldserviceIT.FieldService
