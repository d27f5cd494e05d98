import Forklift.Command.Json
import Forklift.Inventory.Equipment
import Forklift.Session.Timestamp

/-! # Ledgers

A ledger holds the recorded runs of a session, newest first. Runs are only ever added, and the id of
a run is the number of runs up to it.
-/

namespace Forklift

/-- One recorded simulation. -/
structure Run where
  id : Nat
  timestamp : Timestamp
  /-- The selected forklift as the inventory had it, if it had it. -/
  equipment : Option Equipment
  /-- The command text as it was entered. -/
  command : String
  actions : List Action
deriving DecidableEq, Repr

namespace Run

/-- The run that did the given actions. Without actions there is no run. -/
def ofActions? (id : Nat) (timestamp : Timestamp) (equipment : Option Equipment) (command : String)
    (actions : List Action) : Option Run :=
  if actions.isEmpty then none else some { id, timestamp, equipment, command, actions }

/-- The forklift that a run was meant for. -/
def label (run : Run) : String :=
  match run.equipment with
  | some equipment => s!"Forklift: {equipment.label}"
  | none => "Forklift: (unknown)"

/-- What a run tells apart from its moment and its forklift. -/
def content (run : Run) : Nat × String × List Action :=
  (run.id, run.command, run.actions)

def toJson (run : Run) : Json :=
  .objectOf [
    ("id", some (.nat run.id)),
    ("timestamp", some (.string run.timestamp.text)),
    ("equipment", run.equipment.map Equipment.toJson),
    ("command", some (.string run.command)),
    ("actions", some (.array (run.actions.map Action.toJson)))]

end Run

/-- The runs of a session, newest first. -/
abbrev Ledger := List Run

namespace Ledger

/-- The id of the next run. -/
def nextId (ledger : Ledger) : Nat :=
  ledger.length + 1

def toJson (ledger : Ledger) : Json :=
  .array (ledger.map Run.toJson)

end Ledger

end Forklift
