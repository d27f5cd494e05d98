import Forklift.Json.Record
import Forklift.Json.Value

/-! # Equipment

A forklift of the registry, and the inventory: a list of forklifts in the order of their source. The
model number selects a forklift; where several share it, the first one is meant.
-/

namespace Forklift

/-- A registered forklift. -/
structure Equipment where
  name : String
  modelNumber : String
  /-- The date as the registry supplied it. -/
  manufacturingDate : String
deriving DecidableEq, Repr

/-- The forklifts of a source, in its order. -/
abbrev Inventory := List Equipment

namespace Equipment

/-- The name with the model number in parentheses. -/
def label (equipment : Equipment) : String :=
  s!"{equipment.name} ({equipment.modelNumber})"

def toJson (equipment : Equipment) : Json :=
  .object [
    ("name", .string equipment.name),
    ("modelNumber", .string equipment.modelNumber),
    ("manufacturingDate", .string equipment.manufacturingDate)]

/-- A record of exactly the canonical fields, any of which may be empty. -/
def ofTree? (tree : Json.Tree) : Option Equipment := do
  let [name, modelNumber, manufacturingDate] ←
    tree.fields? ["name", "modelNumber", "manufacturingDate"] | none
  return ⟨← (← name).text?, ← (← modelNumber).text?, ← (← manufacturingDate).text?⟩

end Equipment

namespace Inventory

/-- The first forklift with a model number. -/
def resolve? (inventory : Inventory) (modelNumber : String) : Option Equipment :=
  inventory.find? (·.modelNumber == modelNumber)

/-- An array of records. -/
def toJson (inventory : Inventory) : Json :=
  .array (inventory.map Equipment.toJson)

end Inventory

end Forklift
