import Forklift.Command.Rejection
import Forklift.Diagnostic.Json
import Forklift.Session.Notice

/-! # Reports

What came of one simulation: a run was recorded, or the simulation was rejected for a reason.
-/

namespace Forklift

/-- What came of a simulation, with what was found on the way. -/
inductive Report where
  | recorded (runId : Nat) (diagnostics : List Diagnostic)
  | rejected (reason : Rejection) (diagnostics : List Diagnostic)
deriving DecidableEq

namespace Report

/-- What the operator is told of a recorded run. -/
def successMessage : String :=
  "Sent operate commands to forklift."

def ok : Report → Bool
  | recorded _ _ => true
  | rejected _ _ => false

def rejection? : Report → Option Rejection
  | recorded _ _ => none
  | rejected reason _ => some reason

def runId? : Report → Option Nat
  | recorded runId _ => some runId
  | rejected _ _ => none

def diagnostics : Report → List Diagnostic
  | recorded _ diagnostics => diagnostics
  | rejected _ diagnostics => diagnostics

/-- What the operator is told. -/
def message : Report → String
  | recorded _ _ => successMessage
  | rejected reason _ => reason.message

/-- The notice that the simulation sends. -/
def notice (report : Report) : Notice :=
  ⟨if report.ok then .success else .error, report.message⟩

def toJson (report : Report) : Json :=
  .objectOf [
    ("ok", some (.bool report.ok)),
    ("error", report.rejection?.map fun reason => .string reason.name),
    ("message", some (.string report.message)),
    ("run_id", report.runId?.map .nat),
    ("diagnostics", some (.array (report.diagnostics.map Diagnostic.toJson)))]

end Report

end Forklift
