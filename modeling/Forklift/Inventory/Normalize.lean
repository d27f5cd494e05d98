import Forklift.Inventory.Equipment
import Forklift.Inventory.Error
import Forklift.Json.Reader

/-! # Normalization

An inventory comes as an array of objects. Each field has a canonical key and an alternate one: the
first of the two that is there and not null must hold a non-empty string. The first fault in the
order of the items, and within an item in the order of the fields, is the one reported.
-/

namespace Forklift.Inventory

/-- The value that counts for a field: that of the canonical key unless it is absent or null. -/
def fieldValue? (field : EquipmentField) (members : List (String × Json)) : Option Json :=
  ([field.key, field.alternateKey].filterMap (Json.member? · members)).find? (!·.isNull)

/-- The text of a field of the item at an index. -/
def requiredText (index : Nat) (members : List (String × Json)) (field : EquipmentField) :
    Except InventoryError String :=
  match fieldValue? field members with
  | some (.string text) =>
    if text.isEmpty then .error (.missingField index field) else .ok text
  | _ => .error (.missingField index field)

/-- The forklift that the item at an index describes. -/
def normalizeItem (item : Json) (index : Nat) : Except InventoryError Equipment :=
  match item with
  | .object members => do
    let name ← requiredText index members .name
    let modelNumber ← requiredText index members .modelNumber
    let manufacturingDate ← requiredText index members .manufacturingDate
    return { name, modelNumber, manufacturingDate }
  | _ => .error (.notAnObject index)

/-- The inventory that a value describes. -/
def normalize : Json → Except InventoryError Inventory
  | .array items => (items.zipIdx 1).mapM fun (item, index) => normalizeItem item index
  | _ => .error .notAnArray

/-- The inventory of a JSON text. -/
def ofJsonText (text : String) : Except InventoryError Inventory :=
  match Json.ofText? text with
  | some value => normalize value
  | none => .error .invalidJson

/-- The object that a row describes under a header. -/
def rowObject (header row : List String) : Json :=
  .object ((header.zip row).map fun (key, field) => (key, .string field))

/-- The items of a table. A row whose fields are all empty is no item. -/
def tableItems (table : Csv.Table) : Json :=
  .array ((table.rows.filter fun row => !row.all String.isEmpty).map (rowObject table.header))

/-- The inventory of a table with a header. -/
def ofCsvText (text : String) : Except InventoryError Inventory :=
  match Csv.Table.ofText text with
  | .ok table => normalize (tableItems table)
  | .error ragged => .error (.invalidCsv ragged)

end Forklift.Inventory
