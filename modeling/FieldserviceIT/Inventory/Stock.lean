import FieldserviceIT.Admin.Scim
import FieldserviceIT.Common.Companies
import FieldserviceIT.Lib.Decimals
import FieldserviceIT.Lib.Interleaving
import FieldserviceIT.Lib.Tables

/-!
Parts in stock, where they lie, and the movements that are recorded of them. The two
quantities of a part are changed in place; a transaction is a row of its own.
-/

namespace FieldserviceIT.Inventory

open Common Lib Admin

section Columns

/-- `DECIMAL(12,2)` -/
def quantityColumn : DecimalColumn :=
  .cents

abbrev Quantity := quantityColumn.Value

def zeroQuantity : Quantity :=
  ⟨0, by decide⟩

inductive MovementType where
  | receive
  | adjust
  | transferIn
  | transferOut
  | reserve
  | use
  | giveBack
  deriving DecidableEq

def MovementType.name : MovementType → String
  | receive => "RECEIVE"
  | adjust => "ADJUST"
  | transferIn => "TRANSFER_IN"
  | transferOut => "TRANSFER_OUT"
  | reserve => "RESERVE"
  | use => "USE"
  | giveBack => "RETURN"

def movementTypes : List MovementType :=
  [.receive, .adjust, .transferIn, .transferOut, .reserve, .use, .giveBack]

def signedQuantity (movementType : MovementType) (quantity : ℚ) : ℚ :=
  match movementType with
  | .use | .transferOut => -quantity
  | .giveBack => 0
  | .reserve => 0
  | _ => quantity

def reservedDelta (movementType : MovementType) (quantity : ℚ) : ℚ :=
  match movementType with
  | .reserve => quantity
  | .use | .giveBack => -quantity
  | _ => 0

def textColumns : List String :=
  ["sku", "name", "description", "category", "vendor", "manufacturer", "model", "status"]

def figureColumns : List String :=
  ["unitCost", "unitPrice", "reorderPoint", "reorderQuantity"]

def bytesOf (text : String) : Nat :=
  text.toList.foldr (fun c size => c.utf8Size + size) 0

def fits (column : String) (value : Option String) : Bool :=
  value.all fun text =>
    if column = "description" || column = "notes" then bytesOf text ≤ 65535
    else if column = "sku" || column = "category" then text.toList.length ≤ 128
    else if column = "status" then text.toList.length ≤ 32
    else text.toList.length ≤ 191

end Columns

section Tables

structure Part where
  id : String
  companyId : String
  details : String → Option String
  locationId : Option String
  figures : String → Quantity
  quantityOnHand : Quantity
  quantityReserved : Quantity
  createdById : String
  updatedAt : Int

structure Location where
  id : String
  companyId : String
  name : String
  locationType : String

structure Transaction where
  id : String
  companyId : String
  partId : String
  locationId : Option String
  movementType : MovementType
  quantity : Quantity
  notes : Option String
  ticketId : Option String
  actorId : String
  createdAt : Int

structure Stock where
  parts : List Part
  locations : List Location
  transactions : List Transaction

def Part.named (id companyId : String) (row : Part) : Bool :=
  row.id = id && row.companyId = companyId

/-- The signed quantities of the recorded transactions of a part. -/
def Stock.recorded (s : Stock) (partId : String) : ℚ :=
  sumOf (fun row => signedQuantity row.movementType (quantityColumn.read row.quantity))
    (s.transactions.filter fun row => row.partId = partId)

end Tables

section Statements

structure NewPart where
  id : String
  companyId : String
  details : String → Option String
  locationId : Option String
  figures : String → ℚ
  quantityOnHand : ℚ
  createdById : String
  now : Int

def NewPart.row (values : NewPart) : Option Part := do
  let quantityOnHand ← quantityColumn.store values.quantityOnHand
  if (textColumns.all fun column => fits column (values.details column)) &&
      fits "locationId" values.locationId &&
      figureColumns.all fun column => (quantityColumn.store (values.figures column)).isSome then
    some
      { id := values.id
        companyId := values.companyId
        details := values.details
        locationId := values.locationId
        figures := fun column => (quantityColumn.store (values.figures column)).getD zeroQuantity
        quantityOnHand := quantityOnHand
        quantityReserved := zeroQuantity
        createdById := values.createdById
        updatedAt := values.now }
  else none

/-- The columns that are set; `none` is one that is not. -/
structure PartUpdates where
  details : String → Option (Option String)
  locationId : Option (Option String)
  figures : String → Option ℚ
  quantityOnHand : Option ℚ
  updatedAt : Int

def setDetails (updates : String → Option (Option String)) (details : String → Option String) :
    String → Option String :=
  fun column => (updates column).getD (details column)

/-- `none` is an error of a column. -/
def PartUpdates.apply (updates : PartUpdates) (row : Part) : Option Part := do
  let quantityOnHand ←
    (updates.quantityOnHand.map quantityColumn.store).getD (some row.quantityOnHand)
  if (textColumns.all fun column => fits column (setDetails updates.details row.details column)) &&
      fits "locationId" (updates.locationId.getD row.locationId) &&
      figureColumns.all fun column =>
        (updates.figures column).all fun x => (quantityColumn.store x).isSome then
    some
      { row with
        details := setDetails updates.details row.details
        locationId := updates.locationId.getD row.locationId
        figures := fun column =>
          ((updates.figures column).bind quantityColumn.store).getD (row.figures column)
        quantityOnHand := quantityOnHand
        updatedAt := updates.updatedAt }
  else none

def Part.moved (row : Part) (movementType : MovementType) (quantity : ℚ) (now : Int) :
    Option Part := do
  let quantityOnHand ← quantityColumn.store
    (quantityColumn.read row.quantityOnHand + signedQuantity movementType quantity)
  let quantityReserved ← quantityColumn.store
    (maxZero (quantityColumn.read row.quantityReserved + reservedDelta movementType quantity))
  some
    { row with
      quantityOnHand := quantityOnHand
      quantityReserved := quantityReserved
      updatedAt := now }

structure NewTransaction where
  id : String
  companyId : String
  partId : String
  locationId : Option String
  movementType : MovementType
  quantity : ℚ
  notes : Option String
  ticketId : Option String
  actorId : String
  now : Int

def NewTransaction.row (values : NewTransaction) : Option Transaction := do
  let quantity ← quantityColumn.store values.quantity
  if fits "locationId" values.locationId && fits "notes" values.notes &&
      fits "ticketId" values.ticketId then
    some
      { id := values.id
        companyId := values.companyId
        partId := values.partId
        locationId := values.locationId
        movementType := values.movementType
        quantity := quantity
        notes := values.notes
        ticketId := values.ticketId
        actorId := values.actorId
        createdAt := values.now }
  else none

inductive StockOp where
  | read
  | getPart (id : String) (scope : Option String)
  | insertLocation (row : Location)
  | insertPart (values : NewPart)
  | updatePart (id companyId : String) (updates : PartUpdates)
  | move (id companyId : String) (movementType : MovementType) (quantity : ℚ) (now : Int)
  | logTransaction (values : NewTransaction)

def Stock.findPart (s : Stock) (id : String) (scope : Option String) : Option Part :=
  s.parts.find? fun row => row.id = id && inScope scope row.companyId

variable (sameText : String → String → Bool)

def skuClash (companyId : String) (sku : Option String) (row : Part) : Bool :=
  row.companyId = companyId &&
    sku.any fun text => (row.details "sku").any fun other => sameText text other

/-- The server answers the statement with an error: a value does not fit its column, or
a key is taken. -/
def refuses (op : StockOp) (s : Stock) : Bool :=
  match op with
  | .read | .getPart _ _ => false
  | .insertLocation row => s.locations.any (·.id = row.id)
  | .insertPart values => values.row.isNone || s.parts.any fun row =>
    row.id = values.id || skuClash sameText values.companyId (values.details "sku") row
  | .updatePart id companyId updates => s.parts.any fun row => row.named id companyId &&
      ((updates.apply row).isNone || s.parts.any fun other => other.id ≠ row.id &&
        skuClash sameText companyId (updates.details "sku").join other)
  | .move id companyId movementType quantity now => s.parts.any fun row =>
    row.named id companyId && (row.moved movementType quantity now).isNone
  | .logTransaction values => values.row.isNone || s.transactions.any (·.id = values.id)

def perform (op : StockOp) (s : Stock) : Stock :=
  match op with
  | .read | .getPart _ _ => s
  | .insertLocation row => { s with locations := s.locations ++ [row] }
  | .insertPart values => { s with parts := s.parts ++ values.row.toList }
  | .updatePart id companyId updates =>
    { s with
      parts := updateWhere (·.named id companyId) (fun row => (updates.apply row).getD row)
        s.parts }
  | .move id companyId movementType quantity now =>
    { s with
      parts := updateWhere (·.named id companyId)
        (fun row => (row.moved movementType quantity now).getD row) s.parts }
  | .logTransaction values => { s with transactions := s.transactions ++ values.row.toList }

def execStock (op : StockOp) (s : Stock) : Stock :=
  if refuses sameText op s then s else perform op s

end Statements

section Lemmas

theorem NewPart.row_eq_some {values : NewPart} {row : Part} (h : values.row = some row) :
    row.id = values.id ∧ row.companyId = values.companyId ∧
      row.quantityReserved = zeroQuantity ∧
        quantityColumn.store values.quantityOnHand = some row.quantityOnHand := by
  simp only [NewPart.row, Option.bind_eq_bind, Option.bind_eq_some_iff] at h
  obtain ⟨quantityOnHand, hstore, hrow⟩ := h
  split at hrow
  · obtain rfl := Option.some.inj hrow
    exact ⟨rfl, rfl, rfl, hstore⟩
  · cases hrow

theorem PartUpdates.apply_eq_some {updates : PartUpdates} {row row' : Part}
    (h : updates.apply row = some row') :
    row'.id = row.id ∧ row'.companyId = row.companyId ∧
      row'.quantityReserved = row.quantityReserved ∧
        (updates.quantityOnHand.map quantityColumn.store).getD (some row.quantityOnHand) =
          some row'.quantityOnHand := by
  simp only [PartUpdates.apply, Option.bind_eq_bind, Option.bind_eq_some_iff] at h
  obtain ⟨quantityOnHand, hstore, hrow⟩ := h
  split at hrow
  · obtain rfl := Option.some.inj hrow
    exact ⟨rfl, rfl, rfl, hstore⟩
  · cases hrow

theorem Part.moved_eq_some {row row' : Part} {movementType : MovementType} {quantity : ℚ}
    {now : Int} (h : row.moved movementType quantity now = some row') :
    row'.id = row.id ∧ row'.companyId = row.companyId ∧
      quantityColumn.store
          (quantityColumn.read row.quantityOnHand + signedQuantity movementType quantity) =
        some row'.quantityOnHand ∧
      quantityColumn.store
          (maxZero (quantityColumn.read row.quantityReserved +
            reservedDelta movementType quantity)) =
        some row'.quantityReserved := by
  simp only [Part.moved, Option.bind_eq_bind, Option.bind_eq_some_iff, Option.some.injEq] at h
  obtain ⟨quantityOnHand, hstore, quantityReserved, hstore', rfl⟩ := h
  exact ⟨rfl, rfl, hstore, hstore'⟩

theorem NewTransaction.row_eq_some {values : NewTransaction} {row : Transaction}
    (h : values.row = some row) :
    row.partId = values.partId ∧ row.movementType = values.movementType ∧
      quantityColumn.store values.quantity = some row.quantity := by
  simp only [NewTransaction.row, Option.bind_eq_bind, Option.bind_eq_some_iff] at h
  obtain ⟨quantity, hstore, hrow⟩ := h
  split at hrow
  · obtain rfl := Option.some.inj hrow
    exact ⟨rfl, rfl, hstore⟩
  · cases hrow

end Lemmas
end FieldserviceIT.Inventory
