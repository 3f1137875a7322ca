import FieldserviceIT.Inventory.Stock

/-!
The calls on parts. A movement looks at a part, changes its counters and records the
transaction, in three statements that are no transaction of the database.
-/

namespace FieldserviceIT.Inventory

open Common Lib Admin

abbrev StockProgram := Prog Stock StockOp

section Payloads

/-- The ids a call draws and its time. -/
structure Draw where
  partId : String
  locationId : String
  transactionId : String
  now : Int

/-- A property is `none` when it is not there. Numbers are as `Number(value) || 0` leaves
them; an infinite one is a number no column holds. -/
structure PartDto where
  companyId : Option String := none
  text : String → Option (Option String)
  locationId : Option (Option String) := none
  figures : String → Option ℚ
  quantityOnHand : Option ℚ := none

/-- `movementType` is `dto.movementType || dto.type`. -/
structure MovementDto where
  partId : String
  movementType : Option String
  quantity : ℚ
  locationId : Option String := none
  notes : Option String := none
  ticketId : Option String := none

def trimmedOrNull (value : Option String) : Option String :=
  orNull (value.map trimmed)

/-- What `normalizePart` makes of a text property. -/
def normalizeText (dto : PartDto) (required : Bool) (column : String) : Option (Option String) :=
  match dto.text column with
  | none => if required && column = "status" then some (some "ACTIVE") else none
  | some value =>
    if column = "name" then (trimmedOrNull value).map some
    else if column = "status" then some (some ((trimmedOrNull value).getD "ACTIVE"))
    else some (trimmedOrNull value)

def normalizeNumber (required : Bool) (value : Option ℚ) : Option ℚ :=
  match value with
  | some x => some (maxZero x)
  | none => if required then some 0 else none

structure PartData where
  details : String → Option (Option String)
  locationId : Option (Option String)
  figures : String → Option ℚ
  quantityOnHand : Option ℚ

def normalizeMovementType (value : Option String) : Option MovementType :=
  movementTypes.find? fun movementType => movementType.name = upperCased value

end Payloads

section Access

def scopeFor (user : CurrentUser) : Option (Option String) :=
  companyScope user

def resolveWriteCompany (user : CurrentUser) (requestedCompanyId : Option String) :
    Option String :=
  writeCompany user requestedCompanyId

end Access

section Calls

variable (sameText : String → String → Bool)

def statement (op : StockOp) (go : StockProgram) : StockProgram :=
  .step op fun s => if refuses sameText op s then .fail else go

def getPart (user : CurrentUser) (id : String) (go : Part → StockProgram) : StockProgram :=
  match scopeFor user with
  | none => .fail
  | some scope =>
    .step (.getPart id scope) fun s =>
      match s.findPart id scope with
      | none => .fail
      | some part => go part

/-- The first warehouse of the company; where there is none, one is created. -/
def defaultLocation (companyId : String) (draw : Draw) (go : String → StockProgram) :
    StockProgram :=
  .step .read fun s =>
    match s.locations.find? fun row => row.companyId = companyId && row.locationType = "WAREHOUSE" with
    | some row => go row.id
    | none =>
      statement sameText
        (.insertLocation ⟨draw.locationId, companyId, "Main Warehouse", "WAREHOUSE"⟩)
        (.step .read fun s' =>
          match s'.locations.find? fun row => row.id = draw.locationId with
          | some row => go row.id
          | none => .fail)

def assertLocation (companyId : String) (locationId : Option String) (go : StockProgram) :
    StockProgram :=
  if truthy locationId then
    .step .read fun s =>
      if s.locations.any fun row => row.id = locationId.getD "" && row.companyId = companyId then go
      else .fail
  else go

/-- The location a part is given: what the request names, or a warehouse. -/
def normalizeLocation (companyId : String) (dto : PartDto) (required : Bool) (draw : Draw)
    (go : Option (Option String) → StockProgram) : StockProgram :=
  match dto.locationId with
  | some value => go (some (orNull value))
  | none =>
    if required then defaultLocation sameText companyId draw fun id => go (some (some id))
    else go none

def normalizePart (companyId : String) (dto : PartDto) (required : Bool) (draw : Draw)
    (go : PartData → StockProgram) : StockProgram :=
  if required && (normalizeText dto true "name").isNone then .fail
  else
    normalizeLocation sameText companyId dto required draw fun locationId =>
      assertLocation companyId locationId.join
        (go
          { details := normalizeText dto required
            locationId := locationId
            figures := fun column => normalizeNumber required (dto.figures column)
            quantityOnHand := normalizeNumber required dto.quantityOnHand })

/-- What the insertion binds; the driver refuses a parameter that is `undefined`. -/
def PartData.bound (data : PartData) : Bool :=
  textColumns.all fun column => (data.details column).isSome

def PartData.newPart (data : PartData) (companyId createdById : String) (draw : Draw) :
    NewPart where
  id := draw.partId
  companyId := companyId
  details := fun column => (data.details column).join
  locationId := data.locationId.join
  figures := fun column => (data.figures column).getD 0
  quantityOnHand := data.quantityOnHand.getD 0
  createdById := createdById
  now := draw.now

def initialStock (values : NewPart) (draw : Draw) : NewTransaction where
  id := draw.transactionId
  companyId := values.companyId
  partId := values.id
  locationId := values.locationId
  movementType := .receive
  quantity := values.quantityOnHand
  notes := some "Initial stock"
  ticketId := none
  actorId := values.createdById
  now := draw.now

def createPart (user : CurrentUser) (dto : PartDto) (draw : Draw) : StockProgram :=
  match resolveWriteCompany user dto.companyId with
  | none => .fail
  | some companyId =>
    normalizePart sameText companyId dto true draw fun data =>
      if !data.bound then .fail
      else
        let values := data.newPart companyId user.id draw
        let last : StockProgram := getPart user draw.partId fun _ => .done
        statement sameText (.insertPart values)
          (if 0 < values.quantityOnHand then
            statement sameText (.logTransaction (initialStock values draw)) last
          else last)

def PartData.updates (data : PartData) (now : Int) : PartUpdates where
  details := data.details
  locationId := data.locationId
  figures := data.figures
  quantityOnHand := data.quantityOnHand
  updatedAt := now

def updatePart (user : CurrentUser) (id : String) (dto : PartDto) (draw : Draw) : StockProgram :=
  getPart user id fun _ =>
    match resolveWriteCompany user dto.companyId with
    | none => .fail
    | some companyId =>
      normalizePart sameText companyId dto false draw fun data =>
        statement sameText (.updatePart id companyId (data.updates draw.now))
          (getPart user id fun _ => .done)

def Part.admits (part : Part) (movementType : MovementType) (quantity : ℚ) : Bool :=
  let available :=
    quantityColumn.read part.quantityOnHand - quantityColumn.read part.quantityReserved
  match movementType with
  | .use | .transferOut => quantity ≤ available
  | .reserve => quantity ≤ available
  | .giveBack => quantity ≤ quantityColumn.read part.quantityReserved
  | _ => true

def movement (part : Part) (movementType : MovementType) (quantity : ℚ) (dto : MovementDto)
    (actorId : String) (draw : Draw) : NewTransaction where
  id := draw.transactionId
  companyId := part.companyId
  partId := part.id
  locationId := orElse dto.locationId part.locationId
  movementType := movementType
  quantity := quantity
  notes := trimmedOrNull dto.notes
  ticketId := orNull dto.ticketId
  actorId := actorId
  now := draw.now

def createMovement (user : CurrentUser) (dto : MovementDto) (draw : Draw) : StockProgram :=
  getPart user dto.partId fun part =>
    match normalizeMovementType dto.movementType with
    | none => .fail
    | some movementType =>
      let quantity := maxZero dto.quantity
      if quantity ≤ 0 then .fail
      else if !part.admits movementType quantity then .fail
      else
        statement sameText (.move part.id part.companyId movementType quantity draw.now)
          (statement sameText
            (.logTransaction (movement part movementType quantity dto user.id draw))
            (getPart user part.id fun _ => .done))

end Calls

inductive StockCall where
  | createPart (user : CurrentUser) (dto : PartDto) (draw : Draw)
  | updatePart (user : CurrentUser) (id : String) (dto : PartDto) (draw : Draw)
  | createMovement (user : CurrentUser) (dto : MovementDto) (draw : Draw)

section Handlers

variable (sameText : String → String → Bool)

def StockCall.handler : StockCall → StockProgram
  | .createPart user dto draw => Inventory.createPart sameText user dto draw
  | .updatePart user id dto draw => Inventory.updatePart sameText user id dto draw
  | .createMovement user dto draw => Inventory.createMovement sameText user dto draw

def stockSystem : System Stock StockOp StockCall where
  exec := execStock sameText
  tick s := s
  handler := StockCall.handler sameText
  sendable _ _ := True

end Handlers

/-!
What one movement does to the counters of a part. Where it still finds the stock it takes
or reserves, the reserved quantity stays within the one on hand, which changes by the
quantity that is recorded.
-/

section Law

/-- Nothing is reserved that is not there. -/
structure Bounded (part : Part) : Prop where
  nonneg : 0 ≤ part.quantityReserved.val
  le : part.quantityReserved.val ≤ part.quantityOnHand.val

structure Consistent (s : Stock) : Prop where
  keys : Distinct (fun row : Part => row.id) s.parts
  partOf : ∀ row ∈ s.transactions, ∃ part ∈ s.parts, part.id = row.partId
  bounded : ∀ part ∈ s.parts, Bounded part
  recorded : ∀ part ∈ s.parts, quantityColumn.read part.quantityOnHand = s.recorded part.id

def Stock.reservations (s : Stock) : List (String × Quantity) :=
  s.parts.map fun part => (part.id, part.quantityReserved)

end Law

section Conditions

variable (sameText : String → String → Bool)

/-- The movement, in hundredths, still finds the stock it takes or reserves; what is
taken is not half a hundredth. -/
def Part.enough (part : Part) (movementType : MovementType) (quantity : ℚ) : Bool :=
  let taken := roundHalf (quantity * 100)
  let onHand := part.quantityOnHand.val
  match movementType with
  | .use => !isHalf (quantity * 100) && taken ≤ onHand
  | .transferOut => !isHalf (quantity * 100) && taken ≤ onHand - part.quantityReserved.val
  | .reserve => taken ≤ onHand - part.quantityReserved.val
  | _ => true

/-- A statement the server takes leaves the quantity on hand when it is an edit, and finds
enough when it is a movement; it takes every transaction. -/
def keepsStock (op : StockOp) (s : Stock) : Bool :=
  match op with
  | .updatePart id companyId updates => refuses sameText op s || s.parts.all fun row =>
    !row.named id companyId || updates.quantityOnHand.all fun quantity =>
      quantityColumn.store quantity = some row.quantityOnHand
  | .move id companyId movementType quantity _ => refuses sameText op s || s.parts.all fun row =>
    !row.named id companyId || row.enough movementType quantity
  | .logTransaction _ => !refuses sameText op s
  | _ => true

/-- A movement that makes and gives back no reservation and, if it uses something up,
finds nothing reserved or uses nothing that counts. -/
def sparesReservations (op : StockOp) (s : Stock) : Bool :=
  match op with
  | .move id companyId movementType quantity _ =>
    0 < quantity && movementType ≠ .reserve && movementType ≠ .giveBack &&
      (movementType ≠ .use || s.parts.all fun row => !row.named id companyId ||
        row.quantityReserved.val = 0 || quantity * 100 ≤ 1 / 2)
  | _ => false

end Conditions

section Counters

variable {row row' : Part} {movementType : MovementType} {quantity : ℚ} {now : Int}

def rounded (quantity : ℚ) : ℚ :=
  roundHalf (quantity * 100) / 100

theorem rounded_zero : rounded 0 = 0 := by
  have hzero : roundHalf 0 = 0 := by exact_mod_cast roundHalf_intCast 0
  rw [rounded, zero_mul, hzero, Int.cast_zero, zero_div]

theorem store_iff {x : ℚ} {v : Quantity} :
    quantityColumn.store x = some v ↔ roundHalf (x * 100) = v.val :=
  DecimalColumn.store_eq_some

theorem read_eq (v : Quantity) : quantityColumn.read v = v.val / 100 :=
  rfl

theorem read_of_store {x : ℚ} {v : Quantity} (h : quantityColumn.store x = some v) :
    quantityColumn.read v = rounded x := by
  rw [read_eq, rounded, store_iff.mp h]

theorem onHand_moved (hbounded : Bounded row) (hpositive : 0 < quantity)
    (henough : row.enough movementType quantity = true)
    (h : row.moved movementType quantity now = some row') :
    (row'.quantityOnHand.val : ℚ) =
      row.quantityOnHand.val + signedQuantity movementType (roundHalf (quantity * 100)) := by
  obtain ⟨-, -, hstore, -⟩ := Part.moved_eq_some h
  rw [store_iff, read_eq, add_mul, div_mul_cancel₀ _ (by norm_num)] at hstore
  have hnonneg : 0 ≤ row.quantityOnHand.val := hbounded.nonneg.trans hbounded.le
  have hamount : 0 ≤ quantity * 100 := by linarith
  have hadd : roundHalf (row.quantityOnHand.val + quantity * 100) =
      row.quantityOnHand.val + roundHalf (quantity * 100) := by
    rw [add_comm, roundHalf_add_intCast hamount ?_, add_comm]
    exact add_nonneg hamount (by exact_mod_cast hnonneg)
  have htake : isHalf (quantity * 100) = false →
      roundHalf (row.quantityOnHand.val + -quantity * 100) =
        row.quantityOnHand.val - roundHalf (quantity * 100) := by
    intro hhalf
    rw [← roundHalf_sub hamount hhalf]
    congr 1
    ring
  rw [← hstore]
  cases movementType with
  | receive | adjust | transferIn =>
    simp only [signedQuantity]
    rw [hadd]
    push_cast
    rfl
  | transferOut | use =>
    simp only [Part.enough, Bool.and_eq_true, Bool.not_eq_true'] at henough
    simp only [signedQuantity]
    rw [htake henough.1]
    push_cast
    ring
  | reserve | giveBack =>
    simp only [signedQuantity]
    rw [zero_mul, add_zero, roundHalf_intCast]

theorem read_moved (hbounded : Bounded row) (hpositive : 0 < quantity)
    (henough : row.enough movementType quantity = true)
    (h : row.moved movementType quantity now = some row') :
    quantityColumn.read row'.quantityOnHand =
      quantityColumn.read row.quantityOnHand + signedQuantity movementType (rounded quantity) := by
  rw [read_eq, read_eq, onHand_moved hbounded hpositive henough h, add_div, rounded]
  congr 1
  cases movementType with
  | receive | adjust | transferIn => rfl
  | transferOut | use => exact neg_div _ _
  | reserve | giveBack => exact zero_div _

theorem maxZero_mul (x : ℚ) : maxZero x * 100 = maxZero (x * 100) := by
  rw [maxZero, maxZero]
  by_cases h : x ≤ 0
  · rw [if_pos h, if_pos (by linarith), zero_mul]
  · rw [if_neg h, if_neg (by linarith)]

theorem reserved_moved (h : row.moved movementType quantity now = some row') :
    row'.quantityReserved.val = roundHalf
      (maxZero (row.quantityReserved.val + reservedDelta movementType quantity * 100)) := by
  obtain ⟨-, -, -, hstore⟩ := Part.moved_eq_some h
  rw [store_iff, read_eq, maxZero_mul, add_mul, div_mul_cancel₀ _ (by norm_num)] at hstore
  exact hstore.symm

theorem reserved_same (hbounded : Bounded row) (hdelta : reservedDelta movementType quantity = 0)
    (h : row.moved movementType quantity now = some row') :
    row'.quantityReserved.val = row.quantityReserved.val := by
  have hnonneg : (0 : ℚ) ≤ row.quantityReserved.val := by exact_mod_cast hbounded.nonneg
  rw [reserved_moved h, hdelta, zero_mul, add_zero, maxZero_of_nonneg hnonneg, roundHalf_intCast]

theorem reserved_less (hbounded : Bounded row) (hpositive : 0 < quantity)
    (hdelta : reservedDelta movementType quantity = -quantity)
    (h : row.moved movementType quantity now = some row') :
    0 ≤ row'.quantityReserved.val ∧ row'.quantityReserved.val ≤ row.quantityReserved.val := by
  have hnonneg : (0 : ℚ) ≤ row.quantityReserved.val := by exact_mod_cast hbounded.nonneg
  rw [reserved_moved h, hdelta]
  refine ⟨roundHalf_nonneg (maxZero_nonneg _), ?_⟩
  apply roundHalf_le (maxZero_nonneg _)
  apply maxZero_le hnonneg
  linarith

theorem reserved_use (hpositive : 0 < quantity) (hhalf : isHalf (quantity * 100) = false)
    (h : row.moved .use quantity now = some row') :
    row'.quantityReserved.val = 0 ∨ row'.quantityReserved.val =
      row.quantityReserved.val - roundHalf (quantity * 100) := by
  rw [reserved_moved h, reservedDelta, maxZero]
  split
  · left
    exact_mod_cast roundHalf_intCast 0
  · right
    rw [← roundHalf_sub (by linarith) hhalf]
    congr 1
    ring

theorem bounded_moved (hbounded : Bounded row) (hpositive : 0 < quantity)
    (henough : row.enough movementType quantity = true)
    (h : row.moved movementType quantity now = some row') : Bounded row' := by
  have honHand := onHand_moved hbounded hpositive henough h
  have hamount : 0 ≤ quantity * 100 := by linarith
  have htaken := roundHalf_nonneg hamount
  obtain ⟨hnonneg, hle⟩ := hbounded
  have hbounded : Bounded row := ⟨hnonneg, hle⟩
  cases movementType with
  | receive | adjust | transferIn =>
    simp only [signedQuantity] at honHand
    have hmore : row'.quantityOnHand.val =
        row.quantityOnHand.val + roundHalf (quantity * 100) := by exact_mod_cast honHand
    have hsame := reserved_same hbounded rfl h
    constructor
    · omega
    · omega
  | transferOut =>
    simp only [signedQuantity] at honHand
    have hless : row'.quantityOnHand.val =
        row.quantityOnHand.val + -roundHalf (quantity * 100) := by exact_mod_cast honHand
    have hsame := reserved_same hbounded rfl h
    simp only [Part.enough, Bool.and_eq_true, decide_eq_true_iff] at henough
    constructor
    · omega
    · omega
  | reserve =>
    simp only [signedQuantity] at honHand
    have hsame : row'.quantityOnHand.val = row.quantityOnHand.val + 0 := by
      exact_mod_cast honHand
    simp only [Part.enough, decide_eq_true_iff] at henough
    have hadd : row'.quantityReserved.val =
        roundHalf (quantity * 100) + row.quantityReserved.val := by
      have hsum : 0 ≤ quantity * 100 + row.quantityReserved.val :=
        add_nonneg hamount (by exact_mod_cast hnonneg)
      rw [reserved_moved h, reservedDelta, add_comm, maxZero_of_nonneg hsum,
        roundHalf_add_intCast hamount hsum]
    constructor
    · omega
    · omega
  | use =>
    simp only [signedQuantity] at honHand
    have hless : row'.quantityOnHand.val =
        row.quantityOnHand.val + -roundHalf (quantity * 100) := by exact_mod_cast honHand
    simp only [Part.enough, Bool.and_eq_true, Bool.not_eq_true', decide_eq_true_iff] at henough
    obtain ⟨hzero, -⟩ := reserved_less hbounded hpositive rfl h
    obtain hnone | hrest := reserved_use hpositive henough.1 h
    · constructor
      · omega
      · omega
    · constructor
      · omega
      · omega
  | giveBack =>
    simp only [signedQuantity] at honHand
    have hsame : row'.quantityOnHand.val = row.quantityOnHand.val + 0 := by
      exact_mod_cast honHand
    obtain ⟨hzero, hless⟩ := reserved_less hbounded hpositive rfl h
    constructor
    · omega
    · omega

theorem reserved_use_same (hbounded : Bounded row) (hpositive : 0 < quantity)
    (hspare : row.quantityReserved.val = 0 ∨ quantity * 100 ≤ 1 / 2)
    (h : row.moved .use quantity now = some row') :
    row'.quantityReserved.val = row.quantityReserved.val := by
  obtain ⟨hzero, hless⟩ := reserved_less hbounded hpositive rfl h
  obtain hnone | hsmall := hspare
  · omega
  · apply Int.le_antisymm hless
    have hnonneg : (0 : ℚ) ≤ row.quantityReserved.val := by exact_mod_cast hbounded.nonneg
    by_cases hpos : row.quantityReserved.val = 0
    · omega
    · have hone : (1 : ℚ) ≤ row.quantityReserved.val := by
        have : 1 ≤ row.quantityReserved.val := by
          have := hbounded.nonneg
          omega
        exact_mod_cast this
      have hrest : 0 ≤ (row.quantityReserved.val : ℚ) + -quantity * 100 := by linarith
      rw [reserved_moved h, reservedDelta, maxZero_of_nonneg hrest, roundHalf_of_nonneg hrest,
        Rat.le_floor_iff]
      linarith

end Counters
end FieldserviceIT.Inventory
