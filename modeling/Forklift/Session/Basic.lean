import Forklift.Command.Interpretation
import Forklift.Session.Ledger
import Forklift.Session.Report

/-! # Sessions

A session is what one operator works in: the selected forklift, the command text and the ledger of
recorded runs. Only a simulation that is accepted changes the ledger, and it changes nothing else.
-/

namespace Forklift

/-- The state of a session. An empty selection means that nothing is selected. -/
structure Session where
  selection : String
  command : String
  ledger : Ledger
deriving DecidableEq, Repr

/-- What a simulation leaves behind: its report, the session, and all notices in their order. -/
structure Simulated where
  report : Report
  session : Session
  notices : List Notice
deriving DecidableEq

namespace Session

/-- Nothing selected, no command and no run. -/
def empty : Session :=
  ⟨"", "", []⟩

/-- Selects a forklift by its model number, which any text may be. -/
def select (session : Session) (modelNumber : String) : Session :=
  { session with selection := modelNumber }

def clearSelection (session : Session) : Session :=
  { session with selection := "" }

/-- Replaces the command text, which is looked at only when it is simulated. -/
def setCommand (session : Session) (text : String) : Session :=
  { session with command := text }

/-- The selected model number, if there is a selection. -/
def selected? (session : Session) : Option String :=
  if session.selection.isEmpty then none else some session.selection

/-- The finding that reports a missing selection. -/
def selectionMissing : Diagnostic :=
  .error .selectionMissing Rejection.selectionMissing.message

/-- The remark that the selected forklift is not in the inventory. -/
def notInInventory (modelNumber : String) : Diagnostic :=
  .info .equipmentNotFound s!"model {modelNumber} is not in the inventory snapshot"

/-- Simulates the command for the selected forklift of an inventory. A missing selection is found
before anything about the command, and an unknown forklift is no reason to reject. -/
def run (session : Session) (inventory : Inventory) (timestamp : Timestamp) : Report × Session :=
  match session.selected? with
  | none => (.rejected .selectionMissing [selectionMissing], session)
  | some modelNumber =>
    match interpret session.command with
    | .rejected reason diagnostics => (.rejected reason diagnostics, session)
    | .accepted actions diagnostics =>
      let id := session.ledger.nextId
      let equipment := inventory.resolve? modelNumber
      let remarks := if equipment.isNone then [notInInventory modelNumber] else []
      match Run.ofActions? id timestamp equipment session.command actions with
      | none => (.rejected .format (diagnostics ++ remarks), session)
      | some run =>
        (.recorded id (diagnostics ++ remarks), { session with ledger := run :: session.ledger })

/-- Simulates the command and sends one notice, which comes after those sent before. -/
def simulate (session : Session) (notices : List Notice) (inventory : Inventory)
    (timestamp : Timestamp) : Simulated :=
  let (report, after) := session.run inventory timestamp
  { report, session := after, notices := notices ++ [report.notice] }

end Session

end Forklift
