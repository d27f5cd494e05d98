import Forklift.Session.Basic

/-! # Batches

A batch simulates commands in one session, one after the other. A rejected command does not stop the
batch, and each command has its own moment.
-/

namespace Forklift

/-- A command of a batch and what came of it. -/
structure BatchItem where
  command : String
  report : Report
  /-- The actions of the recorded run; there are none if the command was rejected. -/
  actions : List Action
deriving DecidableEq

namespace Session

/-- Enters a command and simulates it. -/
def enter (session : Session) (inventory : Inventory) (command : String) (timestamp : Timestamp) :
    BatchItem × Session :=
  let (report, after) := (session.setCommand command).run inventory timestamp
  let recorded := report.runId?.bind fun _ => after.ledger.head?
  ({ command, report, actions := (recorded.map Run.actions).getD [] }, after)

/-- The item of a command and the session behind it are those of the run that simulates it. -/
theorem enter_of_run {session after : Session} {inventory : Inventory} {command : String}
    {timestamp : Timestamp} {report : Report}
    (ran : (session.setCommand command).run inventory timestamp = (report, after)) :
    session.enter inventory command timestamp =
      (⟨command, report,
        ((report.runId?.bind fun _ => after.ledger.head?).map Run.actions).getD []⟩, after) := by
  simp only [enter, ran]

/-- Enters commands in their order, each at its moment. -/
def batch (session : Session) (inventory : Inventory) :
    List (String × Timestamp) → List BatchItem × Session
  | [] => ([], session)
  | (command, timestamp) :: rest =>
    let (item, after) := session.enter inventory command timestamp
    let (items, final) := after.batch inventory rest
    (item :: items, final)

end Session

end Forklift
