import Forklift.Inventory.Normalize
import Forklift.Inventory.Path

/-! # Inventory files

A file is checked by its size, then by its name, and only then read. Its extension alone decides how
it is read, and the size limit counts whatever the name.
-/

namespace Forklift

/-- The formats of an inventory file. -/
inductive ImportFormat where
  | json
  | csv
deriving DecidableEq, Repr

namespace ImportFormat

def name : ImportFormat → String
  | json => "Json"
  | csv => "Csv"

/-- The inventory of a text in a format. -/
def load (format : ImportFormat) (text : String) : Except InventoryError Inventory :=
  match format with
  | json => Inventory.ofJsonText text
  | csv => Inventory.ofCsvText text

@[simp] theorem load_json (text : String) : json.load text = Inventory.ofJsonText text := rfl

@[simp] theorem load_csv (text : String) : csv.load text = Inventory.ofCsvText text := rfl

end ImportFormat

/-- The files as they are at one moment: the size and the content of what a path leads to, or what
the system says about a path that it cannot follow. -/
structure FileView where
  size : String → Except String Nat
  content : String → Except String ByteArray

namespace Inventory

/-- The largest inventory file, in bytes. -/
def maxImportBytes : Nat := 5 * 1024 * 1024

/-- What is said of a content that is not UTF-8. -/
def notUtf8 : String := "stream did not contain valid UTF-8"

/-- The format of a file of a name and a size. Letter case does not matter in an extension. -/
def checkFile (name : String) (size : Nat) : Except InventoryError ImportFormat :=
  if maxImportBytes < size then .error (.fileTooLarge size maxImportBytes)
  else
    match ((Path.extension? name).getD []).map Char.toLower with
    | ['j', 's', 'o', 'n'] => .ok .json
    | ['c', 's', 'v'] => .ok .csv
    | extension => .error (.unsupportedFormat (String.ofList extension))

/-- The inventory of the file that a path leads to. -/
def importFile (files : FileView) (path : String) : Except InventoryError Inventory := do
  let size ← (files.size path).mapError (.io path)
  let format ← checkFile (String.ofList ((Path.fileName? path).getD [])) size
  let content ← (files.content path).mapError (.io path)
  match String.fromUTF8? content with
  | some text => format.load text
  | none => .error (.io path notUtf8)

end Inventory

end Forklift
