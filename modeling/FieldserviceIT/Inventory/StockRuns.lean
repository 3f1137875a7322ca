import FieldserviceIT.Inventory.Counters
import FieldserviceIT.Lib.Protocols

/-!
Runs of the calls on parts. Where an edit leaves the quantity on hand, a movement still
finds at its write what it has looked for, and its transaction is recorded, what is on
hand is what the transactions add up to, with what the calls under way have still to
record.
-/

namespace FieldserviceIT.Inventory

open Common Lib Admin

section Phases

/-- A change of the quantity on hand that is not recorded yet. -/
structure Owed where
  partId : String
  movementType : MovementType
  quantity : ℚ
  deriving DecidableEq

/-- A call that owes nothing may have found a part, by its id and company. -/
inductive StockPhase where
  | idle (found : Option (String × String))
  | owing (owed : Owed)

def StockPhase.ends : StockPhase → Prop
  | idle _ => True
  | owing _ => False

def StockPhase.owes (partId : String) : StockPhase → ℚ
  | idle _ => 0
  | owing owed =>
    if owed.partId = partId then signedQuantity owed.movementType (rounded owed.quantity) else 0

variable (sameText : String → String → Bool)

def advance (phase : StockPhase) (op : StockOp) (s : Stock) : Option StockPhase :=
  match phase, op with
  | .idle found, .read | .idle found, .insertLocation _ | .idle found, .updatePart _ _ _ =>
    some (.idle found)
  | .idle _, .getPart id scope =>
    some (.idle ((s.findPart id scope).map fun part => (part.id, part.companyId)))
  | .idle found, .insertPart values =>
    if 0 ≤ values.quantityOnHand then
      some (if refuses sameText (.insertPart values) s || values.quantityOnHand = 0 then .idle found
        else .owing ⟨values.id, .receive, values.quantityOnHand⟩)
    else none
  | .idle found, .move id companyId movementType quantity now =>
    if found = some (id, companyId) ∧ 0 < quantity then
      some (if refuses sameText (.move id companyId movementType quantity now) s then .idle found
        else .owing ⟨id, movementType, quantity⟩)
    else none
  | .owing owed, .logTransaction values =>
    if (⟨values.partId, values.movementType, values.quantity⟩ : Owed) = owed then some (.idle none)
    else none
  | _, _ => none

end Phases

section Conforming

variable {sameText : String → String → Bool}

def Follows (sameText : String → String → Bool) (p : StockProgram) (phase : StockPhase) : Prop :=
  p.Conforms (fun op s => keepsStock sameText op s = true) (advance sameText) StockPhase.ends phase

theorem follows_statement {op : StockOp} {go : StockProgram} {found : Option (String × String)}
    (hadvance : ∀ s, advance sameText (.idle found) op s = some (.idle found))
    (hgo : Follows sameText go (.idle found)) :
    Follows sameText (statement sameText op go) (.idle found) := by
  refine Prog.conforms_step (fun _ => .idle found) (fun s _ => hadvance s) fun s _ => ?_
  split
  · trivial
  · exact hgo

theorem follows_read {next : Stock → StockProgram} {found : Option (String × String)}
    (hnext : ∀ s, Follows sameText (next s) (.idle found)) :
    Follows sameText (.step .read next) (.idle found) :=
  Prog.conforms_step (fun _ => .idle found) (fun _ _ => rfl) fun s _ => hnext s

theorem follows_getPart {user : CurrentUser} {id : String} {go : Part → StockProgram}
    {found : Option (String × String)}
    (hgo : ∀ part, Follows sameText (go part) (.idle (some (part.id, part.companyId)))) :
    Follows sameText (getPart user id go) (.idle found) := by
  rw [getPart]
  split
  · trivial
  next scope _ =>
    refine Prog.conforms_step
      (fun s => .idle ((s.findPart id scope).map fun part => (part.id, part.companyId)))
      (fun _ _ => rfl) fun s _ => ?_
    split
    · trivial
    next part hfind =>
      rw [hfind, Option.map_some]
      exact hgo part

theorem follows_normalizePart {companyId : String} {dto : PartDto} {required : Bool}
    {draw : Draw} {go : PartData → StockProgram} {found : Option (String × String)}
    (hgo : ∀ data : PartData, (∀ x, data.quantityOnHand = some x → 0 ≤ x) →
      Follows sameText (go data) (.idle found)) :
    Follows sameText (normalizePart sameText companyId dto required draw go) (.idle found) := by
  have hnumber : ∀ (value : Option ℚ) (x : ℚ), normalizeNumber required value = some x →
      0 ≤ x := by
    intro value x hx
    cases value with
    | none =>
      obtain ⟨-, heq⟩ := Option.ite_none_right_eq_some.mp hx
      rw [← Option.some.inj heq]
    | some y =>
      rw [← Option.some.inj hx]
      exact maxZero_nonneg y
  have hassert : ∀ (locationId : Option String) (p : StockProgram),
      Follows sameText p (.idle found) →
        Follows sameText (assertLocation companyId locationId p) (.idle found) := by
    intro locationId p hp
    rw [assertLocation]
    split
    · refine follows_read fun s => ?_
      split
      · exact hp
      · trivial
    · exact hp
  have hdata := fun locationId => hassert locationId.join _ (hgo
    { details := normalizeText dto required
      locationId := locationId
      figures := fun column => normalizeNumber required (dto.figures column)
      quantityOnHand := normalizeNumber required dto.quantityOnHand } (hnumber _))
  rw [normalizePart]
  split
  · trivial
  · rw [normalizeLocation]
    split
    · exact hdata _
    · split
      · rw [defaultLocation]
        refine follows_read fun s => ?_
        split
        · exact hdata _
        · refine follows_statement (fun _ => rfl) (follows_read fun s' => ?_)
          split
          · exact hdata _
          · trivial
      · exact hdata _

theorem follows_logTransaction {values : NewTransaction} {go : StockProgram}
    (hgo : Follows sameText go (.idle none)) :
    Follows sameText (statement sameText (.logTransaction values) go)
      (.owing ⟨values.partId, values.movementType, values.quantity⟩) := by
  refine Prog.conforms_step (fun _ => .idle none) (fun _ _ => if_pos rfl) fun s hallowed => ?_
  rw [keepsStock, Bool.not_eq_true'] at hallowed
  rw [hallowed, if_neg Bool.false_ne_true]
  exact hgo

theorem follows_createPart (user : CurrentUser) (dto : PartDto) (draw : Draw) :
    Follows sameText (createPart sameText user dto draw) (.idle none) := by
  rw [createPart]
  split
  · trivial
  next companyId _ =>
    refine follows_normalizePart fun data hnonneg => ?_
    have hlast : ∀ found, Follows sameText (getPart user draw.partId fun _ => .done)
        (.idle found) := fun found => follows_getPart fun _ => trivial
    split
    · trivial
    · have hquantity : 0 ≤ (data.newPart companyId user.id draw).quantityOnHand := by
        change 0 ≤ data.quantityOnHand.getD 0
        cases honHand : data.quantityOnHand with
        | none => exact le_refl 0
        | some x => exact hnonneg x honHand
      refine Prog.conforms_step
        (fun s => if refuses sameText (.insertPart (data.newPart companyId user.id draw)) s ||
            (data.newPart companyId user.id draw).quantityOnHand = 0 then StockPhase.idle none
          else .owing ⟨draw.partId, .receive, (data.newPart companyId user.id draw).quantityOnHand⟩)
        (fun s _ => if_pos hquantity) fun s _ => ?_
      cases refuses sameText (.insertPart (data.newPart companyId user.id draw)) s with
      | true => trivial
      | false =>
        rw [if_neg Bool.false_ne_true, Bool.false_or]
        by_cases hzero : (data.newPart companyId user.id draw).quantityOnHand = 0
        · rw [if_pos (decide_eq_true hzero), if_neg (not_lt_of_ge hzero.le)]
          exact hlast none
        · have hpositive := lt_of_le_of_ne hquantity (Ne.symm hzero)
          rw [decide_eq_false hzero, if_neg Bool.false_ne_true, if_pos hpositive]
          exact follows_logTransaction (hlast none)

theorem follows_updatePart (user : CurrentUser) (id : String) (dto : PartDto) (draw : Draw) :
    Follows sameText (updatePart sameText user id dto draw) (.idle none) := by
  refine follows_getPart fun part => ?_
  split
  · trivial
  · refine follows_normalizePart fun data _ => ?_
    exact follows_statement (fun _ => rfl) (follows_getPart fun _ => trivial)

theorem follows_createMovement (user : CurrentUser) (dto : MovementDto) (draw : Draw) :
    Follows sameText (createMovement sameText user dto draw) (.idle none) := by
  refine follows_getPart fun part => ?_
  split
  · trivial
  next movementType _ =>
    dsimp only
    split
    · trivial
    next hquantity =>
      split
      · trivial
      · have hpositive : 0 < maxZero dto.quantity := not_le.mp hquantity
        refine Prog.conforms_step
          (fun s => if refuses sameText
              (.move part.id part.companyId movementType (maxZero dto.quantity) draw.now) s then
              StockPhase.idle (some (part.id, part.companyId))
            else .owing ⟨part.id, movementType, maxZero dto.quantity⟩)
          (fun s _ => if_pos ⟨rfl, hpositive⟩) fun s _ => ?_
        cases refuses sameText
            (.move part.id part.companyId movementType (maxZero dto.quantity) draw.now) s with
        | true => trivial
        | false => exact follows_logTransaction (follows_getPart fun _ => trivial)

end Conforming

section Ledgers

def StockPhase.Known (s : Stock) : StockPhase → Prop
  | idle found => ∀ entry ∈ found, ∃ part ∈ s.parts, part.id = entry.1 ∧ part.companyId = entry.2
  | owing owed => ∃ part ∈ s.parts, part.id = owed.partId

/-- What is on hand is recorded or owed. -/
structure Ledger (s : Stock) (phases : List StockPhase) : Prop where
  keys : Distinct (fun row : Part => row.id) s.parts
  partOf : ∀ row ∈ s.transactions, ∃ part ∈ s.parts, part.id = row.partId
  bounded : ∀ part ∈ s.parts, Bounded part
  known : ∀ phase ∈ phases, phase.Known s
  balance : ∀ part ∈ s.parts, quantityColumn.read part.quantityOnHand =
    s.recorded part.id + sumOf (StockPhase.owes part.id) phases

variable {s s' : Stock} {phases : List StockPhase} {i : Nat} {phase phase' : StockPhase}

theorem recorded_congr (h : s'.transactions = s.transactions) (partId : String) :
    s'.recorded partId = s.recorded partId := by
  rw [Stock.recorded, h, Stock.recorded]

theorem StockPhase.Known.mono (h : phase.Known s)
    (hparts : ∀ part ∈ s.parts, ∃ part' ∈ s'.parts, part'.id = part.id ∧
      part'.companyId = part.companyId) : phase.Known s' := by
  cases phase with
  | idle found =>
    intro entry hentry
    obtain ⟨part, hpart, hid, hcompany⟩ := h entry hentry
    obtain ⟨part', hpart', hid', hcompany'⟩ := hparts part hpart
    exact ⟨part', hpart', hid'.trans hid, hcompany'.trans hcompany⟩
  | owing owed =>
    obtain ⟨part, hpart, hid⟩ := h
    obtain ⟨part', hpart', hid', -⟩ := hparts part hpart
    exact ⟨part', hpart', hid'.trans hid⟩

theorem owed_set (hi : phases[i]? = some phase) (partId : String) :
    sumOf (StockPhase.owes partId) (phases.set i phase') =
      sumOf (StockPhase.owes partId) phases + (phase'.owes partId - phase.owes partId) :=
  sumOf_set hi phase'

theorem known_set (h : ∀ phase ∈ phases, phase.Known s) (hphase' : phase'.Known s) :
    ∀ phase ∈ phases.set i phase', phase.Known s := by
  intro other hother
  obtain hold | rfl := List.mem_or_eq_of_mem_set hother
  · exact h other hold
  · exact hphase'

theorem Ledger.changed (h : Ledger s phases) (hi : phases[i]? = some phase) {p : Part → Bool}
    {change : Part → Part} (hparts : s'.parts = updateWhere p change s.parts)
    (htransactions : s'.transactions = s.transactions)
    (hkeys : ∀ row ∈ s.parts, p row = true →
      (change row).id = row.id ∧ (change row).companyId = row.companyId)
    (hbounded : ∀ row ∈ s.parts, p row = true → Bounded (change row))
    (hbalance : ∀ row ∈ s.parts, quantityColumn.read (if p row then change row else row).quantityOnHand =
      quantityColumn.read row.quantityOnHand + (phase'.owes row.id - phase.owes row.id))
    (hknown : phase'.Known s) : Ledger s' (phases.set i phase') := by
  have hsame : ∀ row ∈ s.parts, (if p row then change row else row).id = row.id ∧
      (if p row then change row else row).companyId = row.companyId := by
    intro row hrow
    split
    next hp => exact hkeys row hrow hp
    next => exact ⟨rfl, rfl⟩
  have hcarried : ∀ part ∈ s.parts, ∃ part' ∈ s'.parts, part'.id = part.id ∧
      part'.companyId = part.companyId := by
    intro part hpart
    refine ⟨_, ?_, hsame part hpart⟩
    rw [hparts]
    exact mem_updateWhere.mpr ⟨part, hpart, rfl⟩
  refine ⟨?_, ?_, ?_, fun other hother => ?_, ?_⟩
  · have hids : (updateWhere p change s.parts).map (fun row : Part => row.id) =
        s.parts.map fun row : Part => row.id :=
      map_updateWhere_congr fun row hrow hp => (hkeys row hrow hp).1
    rw [hparts, Distinct, hids]
    exact h.keys
  · rw [htransactions]
    intro row hrow
    obtain ⟨part, hpart, hid⟩ := h.partOf row hrow
    obtain ⟨part', hpart', hid', -⟩ := hcarried part hpart
    exact ⟨part', hpart', hid'.trans hid⟩
  · rw [hparts]
    exact forall_updateWhere h.bounded fun row hrow hp _ => hbounded row hrow hp
  · exact (known_set h.known hknown other hother).mono hcarried
  · rw [hparts]
    intro row' hrow'
    obtain ⟨row, hrow, rfl⟩ := mem_updateWhere.mp hrow'
    rw [hbalance row hrow, (hsame row hrow).1, recorded_congr htransactions, owed_set hi,
      h.balance row hrow]
    ring

theorem Ledger.quiet (h : Ledger s phases) (hi : phases[i]? = some phase)
    (hparts : s'.parts = s.parts) (htransactions : s'.transactions = s.transactions)
    (hknown : phase'.Known s) (howes : ∀ partId, phase'.owes partId = phase.owes partId) :
    Ledger s' (phases.set i phase') := by
  have hnone : s'.parts = updateWhere (fun _ => false) id s.parts := by
    rw [hparts, updateWhere]
    exact (List.map_id _).symm
  refine h.changed hi hnone htransactions (fun _ _ hp => ?_) (fun _ _ hp => ?_)
    (fun row _ => ?_) hknown
  · cases hp
  · cases hp
  · rw [howes, sub_self, add_zero]
    rfl

theorem Ledger.inserted (h : Ledger s phases) (hi : phases[i]? = some phase) {row : Part}
    (hparts : s'.parts = s.parts ++ [row]) (htransactions : s'.transactions = s.transactions)
    (hfresh : ∀ other ∈ s.parts, other.id ≠ row.id) (hbounded : Bounded row)
    (howed : phase'.owes row.id = quantityColumn.read row.quantityOnHand)
    (hothers : ∀ partId, partId ≠ row.id → phase'.owes partId = 0)
    (hnothing : ∀ partId, phase.owes partId = 0) (hknown : phase'.Known s') :
    Ledger s' (phases.set i phase') := by
  have hcarried : ∀ part ∈ s.parts, ∃ part' ∈ s'.parts, part'.id = part.id ∧
      part'.companyId = part.companyId := by
    intro part hpart
    refine ⟨part, ?_, rfl, rfl⟩
    rw [hparts]
    exact List.mem_append_left _ hpart
  have hmem : ∀ part ∈ s'.parts, part ∈ s.parts ∨ part = row := by
    intro part hpart
    rw [hparts] at hpart
    exact (List.mem_append.mp hpart).imp_right List.mem_singleton.mp
  have hnobody : sumOf (StockPhase.owes row.id) phases = 0 := by
    apply sumOf_eq_zero
    intro other hother
    cases other with
    | idle found => rfl
    | owing owed =>
      obtain ⟨part, hpart, hid⟩ := h.known _ hother
      exact if_neg (hid ▸ hfresh part hpart)
  have hunrecorded : s.recorded row.id = 0 := by
    rw [Stock.recorded]
    have hnone : (s.transactions.filter fun entry => entry.partId = row.id) = [] := by
      refine List.filter_eq_nil_iff.mpr fun entry hentry => ?_
      obtain ⟨part, hpart, hid⟩ := h.partOf entry hentry
      simpa [← hid] using hfresh part hpart
    rw [hnone]
    rfl
  refine ⟨?_, ?_, ?_, ?_, ?_⟩
  · rw [hparts]
    exact h.keys.append hfresh
  · rw [htransactions]
    intro entry hentry
    obtain ⟨part, hpart, hid⟩ := h.partOf entry hentry
    obtain ⟨part', hpart', hid', -⟩ := hcarried part hpart
    exact ⟨part', hpart', hid'.trans hid⟩
  · intro part hpart
    obtain hold | rfl := hmem part hpart
    · exact h.bounded part hold
    · exact hbounded
  · exact known_set (fun other hother => (h.known other hother).mono hcarried) hknown
  · intro part hpart
    rw [recorded_congr htransactions, owed_set hi]
    obtain hold | rfl := hmem part hpart
    · rw [hothers part.id (hfresh part hold), hnothing, sub_self, add_zero]
      exact h.balance part hold
    · rw [howed, hnothing, hnobody, hunrecorded]
      ring

theorem recorded_append {row : Transaction}
    (htransactions : s'.transactions = s.transactions ++ [row]) (partId : String) :
    s'.recorded partId = s.recorded partId +
      if row.partId = partId then
        signedQuantity row.movementType (quantityColumn.read row.quantity)
      else 0 := by
  rw [Stock.recorded, htransactions, List.filter_append, sumOf_append, ← Stock.recorded]
  congr 1
  by_cases hpart : row.partId = partId
  · simp [hpart, sumOf]
  · simp [hpart, sumOf]

theorem Ledger.logged (h : Ledger s phases) (hi : phases[i]? = some phase) {row : Transaction}
    (hparts : s'.parts = s.parts) (htransactions : s'.transactions = s.transactions ++ [row])
    (hpart : ∃ part ∈ s.parts, part.id = row.partId)
    (hrecords : ∀ partId, phase.owes partId =
      if row.partId = partId then
        signedQuantity row.movementType (quantityColumn.read row.quantity)
      else 0)
    (hnothing : ∀ partId, phase'.owes partId = 0) (hknown : phase'.Known s) :
    Ledger s' (phases.set i phase') := by
  have hknown' : ∀ other ∈ phases.set i phase', other.Known s' := by
    intro other hother
    refine (known_set h.known hknown other hother).mono fun part hpart => ?_
    exact ⟨part, hparts ▸ hpart, rfl, rfl⟩
  refine ⟨hparts ▸ h.keys, ?_, hparts ▸ h.bounded, hknown', ?_⟩
  · rw [htransactions, hparts]
    intro entry hentry
    obtain hold | hnew := List.mem_append.mp hentry
    · exact h.partOf entry hold
    · rw [List.mem_singleton.mp hnew]
      exact hpart
  · rw [hparts]
    intro part hmem
    rw [recorded_append htransactions, owed_set hi, hnothing, hrecords, h.balance part hmem]
    ring

end Ledgers

section Steps

variable {sameText : String → String → Bool} {s : Stock} {phases : List StockPhase} {i : Nat}
  {phase phase' : StockPhase}

theorem execStock_of_refuses {op : StockOp} (h : refuses sameText op s = true) :
    execStock sameText op s = s :=
  if_pos h

theorem execStock_of_accepts {op : StockOp} (h : refuses sameText op s = false) :
    execStock sameText op s = perform op s := by
  rw [execStock, h]
  rfl

theorem Ledger.refused (h : Ledger s phases) (hi : phases[i]? = some phase) {op : StockOp}
    (hrefuses : refuses sameText op s = true) :
    Ledger (execStock sameText op s) (phases.set i phase) := by
  rw [execStock_of_refuses hrefuses]
  exact h.quiet hi rfl rfl (h.known phase (List.mem_of_getElem? hi)) fun _ => rfl

theorem Ledger.getPart (h : Ledger s phases) {found : Option (String × String)}
    (hi : phases[i]? = some (.idle found)) (id : String) (scope : Option String) :
    Ledger s (phases.set i
      (.idle ((s.findPart id scope).map fun part => (part.id, part.companyId)))) := by
  refine h.quiet hi rfl rfl (fun entry hentry => ?_) fun _ => rfl
  obtain ⟨part, hpart, rfl⟩ := Option.map_eq_some_iff.mp hentry
  exact ⟨part, List.mem_of_find?_eq_some hpart, rfl, rfl⟩

theorem Ledger.updatePart (h : Ledger s phases) {found : Option (String × String)}
    (hi : phases[i]? = some (.idle found)) {id companyId : String} {updates : PartUpdates}
    (hallowed : keepsStock sameText (.updatePart id companyId updates) s = true) :
    Ledger (execStock sameText (.updatePart id companyId updates) s)
      (phases.set i (.idle found)) := by
  rw [keepsStock] at hallowed
  cases hrefuses : refuses sameText (.updatePart id companyId updates) s with
  | true => exact h.refused hi hrefuses
  | false =>
    rw [execStock_of_accepts hrefuses]
    rw [hrefuses, Bool.false_or, List.all_eq_true] at hallowed
    have hrow : ∀ row ∈ s.parts, row.named id companyId = true →
        ∃ row', updates.apply row = some row' ∧ row'.id = row.id ∧
          row'.companyId = row.companyId ∧ row'.quantityReserved = row.quantityReserved ∧
            row'.quantityOnHand = row.quantityOnHand := by
      intro row hmem hnamed
      have haccepts := List.any_eq_false.mp hrefuses row hmem
      simp only [hnamed, Bool.true_and, Bool.or_eq_true, not_or, Option.isNone_iff_eq_none]
        at haccepts
      obtain ⟨row', hrow'⟩ := Option.ne_none_iff_exists'.mp haccepts.1
      obtain ⟨hid, hcompany, hreserved, hstore⟩ := PartUpdates.apply_eq_some hrow'
      refine ⟨row', hrow', hid, hcompany, hreserved, ?_⟩
      have hkeeps := hallowed row hmem
      rw [hnamed, Bool.not_true, Bool.false_or] at hkeeps
      cases hquantity : updates.quantityOnHand with
      | none =>
        rw [hquantity] at hstore
        exact (Option.some.inj hstore).symm
      | some quantity =>
        rw [hquantity, Option.all_some, decide_eq_true_iff] at hkeeps
        rw [hquantity, Option.map_some, Option.getD_some, hkeeps] at hstore
        exact (Option.some.inj hstore).symm
    refine h.changed hi rfl rfl (fun row hmem hnamed => ?_) (fun row hmem hnamed => ?_)
      (fun row hmem => ?_) (h.known _ (List.mem_of_getElem? hi))
    · obtain ⟨row', hrow', hid, hcompany, -, -⟩ := hrow row hmem hnamed
      rw [hrow', Option.getD_some]
      exact ⟨hid, hcompany⟩
    · obtain ⟨row', hrow', -, -, hreserved, honHand⟩ := hrow row hmem hnamed
      obtain ⟨hnonneg, hle⟩ := h.bounded row hmem
      rw [hrow', Option.getD_some]
      constructor
      · rw [hreserved]
        exact hnonneg
      · rw [hreserved, honHand]
        exact hle
    · rw [sub_self, add_zero]
      by_cases hnamed : row.named id companyId = true
      · obtain ⟨row', hrow', -, -, -, honHand⟩ := hrow row hmem hnamed
        rw [if_pos hnamed, hrow', Option.getD_some, honHand]
      · rw [if_neg hnamed]

theorem Ledger.insertPart (h : Ledger s phases) {found : Option (String × String)}
    (hi : phases[i]? = some (.idle found)) {values : NewPart} (hnonneg : 0 ≤ values.quantityOnHand) :
    Ledger (execStock sameText (.insertPart values) s) (phases.set i
      (if refuses sameText (.insertPart values) s || values.quantityOnHand = 0 then .idle found
        else .owing ⟨values.id, .receive, values.quantityOnHand⟩)) := by
  cases hrefuses : refuses sameText (.insertPart values) s with
  | true => exact h.refused hi hrefuses
  | false =>
    rw [execStock_of_accepts hrefuses, Bool.false_or]
    simp only [refuses, Bool.or_eq_false_iff, Option.isNone_eq_false_iff,
      Option.isSome_iff_exists] at hrefuses
    obtain ⟨⟨row, hrow⟩, hfree⟩ := hrefuses
    obtain ⟨hid, -, hreserved, hstore⟩ := NewPart.row_eq_some hrow
    have hparts : (perform (.insertPart values) s).parts = s.parts ++ [row] := by
      rw [perform, hrow, Option.toList_some]
    have hfresh : ∀ other ∈ s.parts, other.id ≠ row.id := by
      intro other hother heq
      have hclash := List.any_eq_false.mp hfree other hother
      simp [heq, hid] at hclash
    have hbounded : Bounded row := by
      constructor
      · rw [hreserved]
        exact le_refl 0
      · rw [hreserved]
        exact DecimalColumn.val_nonneg_of_store hnonneg hstore
    have hmem : row ∈ (perform (.insertPart values) s).parts := by
      rw [hparts]
      exact List.mem_append_right _ List.mem_cons_self
    have hread := read_of_store hstore
    by_cases hzero : values.quantityOnHand = 0
    · rw [if_pos (decide_eq_true hzero)]
      refine h.inserted hi hparts rfl hfresh hbounded ?_ (fun _ _ => rfl) (fun _ => rfl) ?_
      · rw [hread, hzero, rounded_zero]
        rfl
      · intro entry hentry
        obtain ⟨part, hpart, hids⟩ := h.known _ (List.mem_of_getElem? hi) entry hentry
        refine ⟨part, ?_, hids⟩
        rw [hparts]
        exact List.mem_append_left _ hpart
    · rw [decide_eq_false hzero, if_neg Bool.false_ne_true]
      refine h.inserted hi hparts rfl hfresh hbounded ?_ (fun partId hne => ?_) (fun _ => rfl) ?_
      · rw [hread]
        exact if_pos hid.symm
      · exact if_neg fun heq => hne (heq.symm.trans hid.symm)
      · exact ⟨row, hmem, hid⟩

theorem Ledger.move (h : Ledger s phases) {found : Option (String × String)}
    (hi : phases[i]? = some (.idle found)) {id companyId : String} {movementType : MovementType}
    {quantity : ℚ} {now : Int} (hfound : found = some (id, companyId)) (hpositive : 0 < quantity)
    (hallowed : keepsStock sameText (.move id companyId movementType quantity now) s = true) :
    Ledger (execStock sameText (.move id companyId movementType quantity now) s) (phases.set i
      (if refuses sameText (.move id companyId movementType quantity now) s then .idle found
        else .owing ⟨id, movementType, quantity⟩)) := by
  rw [keepsStock] at hallowed
  cases hrefuses : refuses sameText (.move id companyId movementType quantity now) s with
  | true => exact h.refused hi hrefuses
  | false =>
    rw [execStock_of_accepts hrefuses, if_neg Bool.false_ne_true]
    rw [hrefuses, Bool.false_or, List.all_eq_true] at hallowed
    obtain ⟨part, hpart, hpartId, hpartCompany⟩ :=
      h.known _ (List.mem_of_getElem? hi) (id, companyId) hfound
    have hnamed_iff : ∀ row ∈ s.parts, row.named id companyId = true ↔ row.id = id := by
      intro row hmem
      rw [Part.named, Bool.and_eq_true, decide_eq_true_iff, decide_eq_true_iff]
      refine ⟨And.left, fun hid => ⟨hid, ?_⟩⟩
      obtain rfl := h.keys.eq_of_key hmem hpart (hid.trans hpartId.symm)
      exact hpartCompany
    have hrow : ∀ row ∈ s.parts, row.named id companyId = true →
        row.enough movementType quantity = true ∧
          ∃ row', row.moved movementType quantity now = some row' := by
      intro row hmem hnamed
      have haccepts := List.any_eq_false.mp hrefuses row hmem
      have henough := hallowed row hmem
      rw [hnamed, Bool.not_true, Bool.false_or] at henough
      rw [hnamed, Bool.true_and, Option.isNone_iff_eq_none] at haccepts
      exact ⟨henough, Option.ne_none_iff_exists'.mp haccepts⟩
    refine h.changed hi rfl rfl (fun row hmem hnamed => ?_) (fun row hmem hnamed => ?_)
      (fun row hmem => ?_) ⟨part, hpart, hpartId⟩
    · obtain ⟨-, row', hmoved⟩ := hrow row hmem hnamed
      rw [hmoved, Option.getD_some]
      exact ⟨(Part.moved_eq_some hmoved).1, (Part.moved_eq_some hmoved).2.1⟩
    · obtain ⟨henough, row', hmoved⟩ := hrow row hmem hnamed
      rw [hmoved, Option.getD_some]
      exact bounded_moved (h.bounded row hmem) hpositive henough hmoved
    · simp only [StockPhase.owes]
      by_cases hnamed : row.named id companyId = true
      · obtain ⟨henough, row', hmoved⟩ := hrow row hmem hnamed
        rw [if_pos hnamed, if_pos ((hnamed_iff row hmem).mp hnamed).symm, hmoved,
          Option.getD_some, sub_zero]
        exact read_moved (h.bounded row hmem) hpositive henough hmoved
      · rw [if_neg hnamed, if_neg fun heq => hnamed ((hnamed_iff row hmem).mpr heq.symm),
          sub_self, add_zero]

theorem Ledger.logTransaction (h : Ledger s phases) {values : NewTransaction}
    (hi : phases[i]? = some (.owing ⟨values.partId, values.movementType, values.quantity⟩))
    (hallowed : keepsStock sameText (.logTransaction values) s = true) :
    Ledger (execStock sameText (.logTransaction values) s) (phases.set i (.idle none)) := by
  rw [keepsStock, Bool.not_eq_true'] at hallowed
  rw [execStock_of_accepts hallowed]
  simp only [refuses, Bool.or_eq_false_iff, Option.isNone_eq_false_iff,
    Option.isSome_iff_exists] at hallowed
  obtain ⟨⟨row, hrow⟩, -⟩ := hallowed
  obtain ⟨hpart, htype, hstore⟩ := NewTransaction.row_eq_some hrow
  have htransactions : (perform (.logTransaction values) s).transactions =
      s.transactions ++ [row] := by
    rw [perform, hrow, Option.toList_some]
  refine h.logged hi rfl htransactions ?_ (fun partId => ?_) (fun _ => rfl) fun entry hentry => ?_
  · rw [hpart]
    exact h.known _ (List.mem_of_getElem? hi)
  · rw [hpart, htype, read_of_store hstore]
    rfl
  · cases hentry

theorem Ledger.exec (h : Ledger s phases) (hi : phases[i]? = some phase) {op : StockOp}
    (hallowed : keepsStock sameText op s = true)
    (hadvance : advance sameText phase op s = some phase') :
    Ledger (execStock sameText op s) (phases.set i phase') := by
  have hknown := h.known phase (List.mem_of_getElem? hi)
  cases phase with
  | idle found =>
    cases op with
    | read =>
      obtain rfl := Option.some.inj hadvance
      exact h.quiet hi rfl rfl hknown fun _ => rfl
    | getPart id scope =>
      obtain rfl := Option.some.inj hadvance
      exact h.getPart hi id scope
    | insertLocation row =>
      obtain rfl := Option.some.inj hadvance
      cases hrefuses : refuses sameText (.insertLocation row) s with
      | true => exact h.refused hi hrefuses
      | false =>
        rw [execStock_of_accepts hrefuses]
        exact h.quiet hi rfl rfl hknown fun _ => rfl
    | insertPart values =>
      obtain ⟨hnonneg, heq⟩ := Option.ite_none_right_eq_some.mp hadvance
      obtain rfl := Option.some.inj heq
      exact h.insertPart hi hnonneg
    | updatePart id companyId updates =>
      obtain rfl := Option.some.inj hadvance
      exact h.updatePart hi hallowed
    | move id companyId movementType quantity now =>
      obtain ⟨⟨hfound, hpositive⟩, heq⟩ := Option.ite_none_right_eq_some.mp hadvance
      obtain rfl := Option.some.inj heq
      exact h.move hi hfound hpositive hallowed
    | logTransaction values => cases hadvance
  | owing owed =>
    cases op with
    | logTransaction values =>
      obtain ⟨rfl, heq⟩ := Option.ite_none_right_eq_some.mp hadvance
      obtain rfl := Option.some.inj heq
      exact h.logTransaction hi hallowed
    | _ => cases hadvance

end Steps

section Runs

variable {sameText : String → String → Bool}

theorem ledger_protocol : Protocol (stockSystem sameText)
    (fun op s => keepsStock sameText op s = true) (advance sameText) StockPhase.ends (.idle none)
    Ledger where
  handler s call _ := by
    cases call with
    | createPart user dto draw => exact follows_createPart user dto draw
    | updatePart user id dto draw => exact follows_updatePart user id dto draw
    | createMovement user dto draw => exact follows_createMovement user dto draw
  start s phases h := by
    refine ⟨h.keys, h.partOf, h.bounded, fun phase hphase => ?_, fun part hpart => ?_⟩
    · obtain hold | hnew := List.mem_append.mp hphase
      · exact h.known phase hold
      · rw [List.mem_singleton.mp hnew]
        intro entry hentry
        cases hentry
    · rw [sumOf_append, h.balance part hpart]
      have hnothing : sumOf (StockPhase.owes part.id) [.idle none] = 0 := add_zero 0
      rw [hnothing, add_zero]
  exec op s phases i phase phase' h hallowed hi hadvance := h.exec hi hallowed hadvance
  tick s phases h := h

theorem Consistent.ledger {s : Stock} (h : Consistent s) : Ledger s [] := by
  refine ⟨h.keys, h.partOf, h.bounded, fun phase hphase => ?_, fun part hpart => ?_⟩
  · cases hphase
  · rw [h.recorded part hpart]
    exact (add_zero _).symm

theorem reservations_spared {s : Stock} (hbounded : ∀ part ∈ s.parts, Bounded part) {op : StockOp}
    (h : sparesReservations op s = true) :
    (execStock sameText op s).reservations = s.reservations := by
  cases op with
  | move id companyId movementType quantity now =>
    simp only [sparesReservations, Bool.and_eq_true, decide_eq_true_iff] at h
    obtain ⟨⟨⟨hpositive, hreserve⟩, hgiveBack⟩, huse⟩ := h
    cases hrefuses : refuses sameText (.move id companyId movementType quantity now) s with
    | true => rw [execStock_of_refuses hrefuses]
    | false =>
      rw [execStock_of_accepts hrefuses]
      refine map_updateWhere_congr fun row hmem hnamed => ?_
      have haccepts := List.any_eq_false.mp hrefuses row hmem
      rw [hnamed, Bool.true_and, Option.isNone_iff_eq_none] at haccepts
      obtain ⟨row', hmoved⟩ := Option.ne_none_iff_exists'.mp haccepts
      have hsame : row'.quantityReserved.val = row.quantityReserved.val := by
        cases movementType with
        | receive | adjust | transferIn | transferOut =>
          exact reserved_same (hbounded row hmem) rfl hmoved
        | reserve => exact absurd rfl hreserve
        | giveBack => exact absurd rfl hgiveBack
        | use =>
          simp only [ne_eq, not_true_eq_false, decide_false, Bool.false_or,
            List.all_eq_true] at huse
          have hspare := huse row hmem
          simp only [hnamed, Bool.not_true, Bool.false_or, Bool.or_eq_true,
            decide_eq_true_iff] at hspare
          exact reserved_use_same (hbounded row hmem) hpositive hspare hmoved
      rw [hmoved, Option.getD_some, (Part.moved_eq_some hmoved).1, Subtype.ext hsame]
  | _ => cases h

/-- In every run nothing is reserved that is not there, when no call is under way what is
on hand is what is recorded, and a movement leaves the reservations it spares. -/
theorem stock_ledger {s₀ : Stock} (h₀ : Consistent s₀) {c : Config Stock StockOp}
    (hrun : (stockSystem sameText).Run (fun op s => keepsStock sameText op s = true) ⟨s₀, []⟩ c) :
    (∀ part ∈ c.shared.parts, Bounded part) ∧
      ((∀ p ∈ c.threads, p.finished = true) → ∀ part ∈ c.shared.parts,
        quantityColumn.read part.quantityOnHand = c.shared.recorded part.id) ∧
      ∀ op, sparesReservations op c.shared = true →
        (execStock sameText op c.shared).reservations = c.shared.reservations := by
  obtain ⟨phases, h⟩ := ledger_protocol.run rfl hrun h₀.ledger
  refine ⟨h.bounded, fun hfinished part hpart => ?_, fun op => reservations_spared h.bounded⟩
  obtain ⟨phases', hends, h'⟩ := ledger_protocol.ended rfl hrun h₀.ledger hfinished
  rw [h'.balance part hpart, sumOf_eq_zero, add_zero]
  intro phase hphase
  cases phase with
  | idle found => rfl
  | owing owed => exact (hends _ hphase).elim

def sampleQuantity (n : Nat) : Quantity :=
  DecimalColumn.ofCents n

def samplePart : Part where
  id := "p1"
  companyId := "acme"
  details := fun _ => some "text"
  locationId := none
  figures := fun _ => zeroQuantity
  quantityOnHand := sampleQuantity 1000
  quantityReserved := zeroQuantity
  createdById := "u1"
  updatedAt := 0

def sampleStock : Stock where
  parts := [samplePart]
  locations := []
  transactions :=
    [⟨"t1", "acme", "p1", none, .receive, sampleQuantity 1000, none, none, "u1", 0⟩]

def sampleDraw : Draw :=
  ⟨"p2", "l2", "t2", 1000⟩

def sampleUse : StockCall :=
  .createMovement (sampleActor "u1") ⟨"p1", some "use", 4, none, none, none⟩ sampleDraw

def sampleEdit : StockCall :=
  .updatePart (sampleActor "u1") "p1" ⟨none, fun _ => none, none, fun _ => none, some 5⟩ sampleDraw

def sampleSystem : System Stock StockOp StockCall :=
  stockSystem fun a b => a = b

theorem sampleStock_consistent : Consistent sampleStock := by
  refine ⟨?_, ?_, ?_, ?_⟩
  · rw [Distinct]
    decide
  · decide
  · refine List.forall_mem_singleton.mpr ⟨?_, ?_⟩
    · decide
    · decide
  · refine List.forall_mem_singleton.mpr ?_
    decide +kernel

/-- Four of ten pieces are used. -/
theorem stock_ledger_use : ∃ c : Config Stock StockOp,
    (c.shared.parts.all fun part => part.quantityOnHand = sampleQuantity 600) = true ∧
      ∀ part ∈ c.shared.parts,
        quantityColumn.read part.quantityOnHand = c.shared.recorded part.id := by
  have hplay : (sampleSystem.play (fun _ _ => true) (keepsStock fun a b => a = b)
      ⟨sampleStock, []⟩ [.start sampleUse, .run 0, .run 0, .run 0, .run 0]).any
        (fun c => c.threads.all Prog.finished &&
          c.shared.parts.all fun part => part.quantityOnHand = sampleQuantity 600) = true := by
    decide +kernel
  obtain ⟨c, hrun, hcheck⟩ :=
    System.exists_run_of_play (fun _ _ _ => trivial) (fun _ _ h => h) hplay
  obtain ⟨hfinished, hused⟩ := Bool.and_eq_true_iff.mp hcheck
  refine ⟨c, hused, (stock_ledger sampleStock_consistent hrun).2.1 fun p hp => ?_⟩
  exact List.all_eq_true.mp hfinished p hp

/-- An edit sets the quantity on hand, and no transaction says so. -/
theorem edit_unrecorded : ¬ ∀ (s₀ : Stock) (c : Config Stock StockOp), Consistent s₀ →
    sampleSystem.Run (fun _ _ => True) ⟨s₀, []⟩ c →
      (∀ part ∈ c.shared.parts, Bounded part) ∧
        ((∀ p ∈ c.threads, p.finished = true) → ∀ part ∈ c.shared.parts,
          quantityColumn.read part.quantityOnHand = c.shared.recorded part.id) := by
  intro h
  have hplay : (sampleSystem.play (fun _ _ => true) (fun _ _ => true) ⟨sampleStock, []⟩
      [.start sampleEdit, .run 0, .run 0, .run 0]).any (fun c => c.threads.all Prog.finished &&
        c.shared.parts.any fun part =>
          quantityColumn.read part.quantityOnHand ≠ c.shared.recorded part.id) = true := by
    decide +kernel
  obtain ⟨c, hrun, hcheck⟩ :=
    System.exists_run_of_play (fun _ _ _ => trivial) (fun _ _ _ => trivial) hplay
  obtain ⟨hfinished, hdiffers⟩ := Bool.and_eq_true_iff.mp hcheck
  obtain ⟨part, hpart, hne⟩ := List.any_eq_true.mp hdiffers
  have hrecorded := (h _ _ sampleStock_consistent hrun).2
    (fun p hp => List.all_eq_true.mp hfinished p hp) part hpart
  exact of_decide_eq_true hne hrecorded

end Runs
end FieldserviceIT.Inventory
