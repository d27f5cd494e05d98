import Forklift.Proofs.Command.Language
import Forklift.Session.Basic

/-! # How a simulation goes

A simulation goes one of three ways: nothing is selected, the command is rejected, or a run is recorded.
Which one it is hangs on the selection and the command alone. The inventory and the ledger only have a
part in what is recorded.
-/

namespace Forklift.Session

variable {session : Session}

/-- Without a selection the command is not looked at. -/
theorem run_of_unselected (unselected : session.selection = "") (inventory : Inventory)
    (timestamp : Timestamp) :
    session.run inventory timestamp =
      (.rejected .selectionMissing [selectionMissing], session) := by
  have missing : session.selected? = none := by
    simp [selected?, unselected]
  simp only [run, missing]

/-- A command that is rejected is rejected as it would be without a session. -/
theorem run_of_rejected {reason : Rejection} {diagnostics : List Diagnostic}
    (selected : session.selection ≠ "")
    (meaning : interpret session.command = .rejected reason diagnostics) (inventory : Inventory)
    (timestamp : Timestamp) :
    session.run inventory timestamp = (.rejected reason diagnostics, session) := by
  have found : session.selected? = some session.selection := by
    simp [selected?, selected]
  simp only [run, found, meaning]

/-- A command that is accepted is recorded under the next id, with a remark if its forklift is not in
the inventory. -/
theorem run_of_accepted {actions : List Action} {diagnostics : List Diagnostic}
    (selected : session.selection ≠ "")
    (meaning : interpret session.command = .accepted actions diagnostics) (inventory : Inventory)
    (timestamp : Timestamp) :
    session.run inventory timestamp =
      (.recorded (session.ledger.length + 1)
        (if (inventory.resolve? session.selection).isNone then [notInInventory session.selection]
          else []),
        { session with ledger := ⟨session.ledger.length + 1, timestamp,
          inventory.resolve? session.selection, session.command, actions⟩ :: session.ledger }) := by
  have found : session.selected? = some session.selection := by
    simp [selected?, selected]
  have some_action : actions.isEmpty = false := by
    simpa using actions_ne_nil_of_accepted meaning
  simp only [run, found, meaning, diagnostics_of_accepted meaning, List.nil_append,
    Run.ofActions?, some_action, Bool.false_eq_true, ↓reduceIte]
  rfl

end Forklift.Session
