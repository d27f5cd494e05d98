import Forklift.Csv.Table
import Forklift.Text.Quoted

/-! # Inventory errors

Why no inventory could be had. Malformed data is permanent, since the same data would fail again;
only a source that could not be read or reported itself unavailable is worth another attempt.
-/

namespace Forklift

/-- The fields that every forklift must have. -/
inductive EquipmentField where
  | name
  | modelNumber
  | manufacturingDate
deriving DecidableEq, Repr

namespace EquipmentField

/-- The name of a field in an inventory. -/
def key : EquipmentField → String
  | name => "name"
  | modelNumber => "modelNumber"
  | manufacturingDate => "manufacturingDate"

/-- The other name that is accepted for a field. -/
def alternateKey : EquipmentField → String
  | name => "Name"
  | modelNumber => "model_number"
  | manufacturingDate => "manufacturing_date"

end EquipmentField

/-- Why no inventory could be had. Items are counted from 1. -/
inductive InventoryError where
  /-- The text is not JSON. -/
  | invalidJson
  /-- The text is not a table. -/
  | invalidCsv (ragged : Csv.RaggedRecord)
  /-- The JSON value is not an array. -/
  | notAnArray
  /-- An item is not an object. -/
  | notAnObject (index : Nat)
  /-- A field of an item is absent, empty or not a string. -/
  | missingField (index : Nat) (field : EquipmentField)
  /-- The file is larger than allowed. -/
  | fileTooLarge (size max : Nat)
  /-- The extension of the file is that of no known format. -/
  | unsupportedFormat (extension : String)
  /-- The file could not be read, and what the system said. -/
  | io (path source : String)
  /-- The source reported itself unavailable. -/
  | unavailable (message : String)
  /-- The settings allow no attempt. -/
  | invalidConfig
  /-- Every attempt failed, the last one with this error. -/
  | retriesExhausted (attempts : Nat) (last : InventoryError)
deriving DecidableEq, Repr

namespace InventoryError

/-- Whether another attempt may succeed. -/
def retryable : InventoryError → Bool
  | io _ _ | unavailable _ => true
  | _ => false

theorem retryable_iff {error : InventoryError} : error.retryable = true ↔
    (∃ path source, error = io path source) ∨ ∃ message, error = unavailable message := by
  cases error <;> simp [retryable]

/-- What went wrong, without what caused it. -/
def message : InventoryError → String
  | invalidJson => "invalid inventory JSON"
  | invalidCsv ragged => s!"invalid inventory CSV: {ragged.message}"
  | notAnArray => "Invalid data format. Expected an array."
  | notAnObject index => s!"Item at index {index} is not an object."
  | missingField index _ =>
    s!"Item at index {index} must have name, modelNumber, and manufacturingDate " ++
      "as non-empty strings."
  | fileTooLarge _ _ => "File size exceeds 5MB. Please upload a smaller file."
  | unsupportedFormat extension =>
    s!"Please upload a valid JSON or CSV file (got {Text.quoted extension})."
  | io path _ => s!"failed to read inventory from {path}"
  | unavailable message => s!"inventory unavailable: {message}"
  | invalidConfig => "invalid configuration: max_attempts must be >= 1"
  | retriesExhausted attempts _ => s!"retries exhausted after {attempts} attempts"

/-- The message, followed by the messages of the causes. -/
def chain : InventoryError → List String
  | invalidCsv ragged => [message (invalidCsv ragged), ragged.message]
  | io path source => [message (io path source), source]
  | retriesExhausted attempts last => message (retriesExhausted attempts last) :: last.chain
  | other => [message other]

end InventoryError

end Forklift
