import Forklift.Command.Interpretation
import Forklift.Session.Batch
import Forklift.Terminal.Colour
import Forklift.Terminal.Label
import Forklift.Terminal.Output

/-! # Listings

Results as a reader at a terminal sees them. An accepted command is shown with its numbered actions;
a rejected one with the places that are wrong, or with its findings where there is no place to show.
-/

namespace Forklift.Terminal

open Colour

/-- A number of things in parentheses. -/
def count (n : Nat) (noun : String) : String :=
  if n = 1 then s!"({n} {noun})" else s!"({n} {noun}s)"

/-- A number that takes up at least two columns. -/
def ordinal (n : Nat) : String :=
  if n < 10 then s!" {n}" else toString n

/-- Actions with their numbers, which start from 1. -/
def actionLines (actions : List Action) : List String :=
  actions.mapIdx fun i action => s!"  {ordinal (i + 1)}. {action.display}"

/-- An accepted command. The id is that of its run, if it has been recorded. -/
def acceptedLines (runId? : Option Nat) (command : String) (actions : List Action) : List String :=
  let head := match runId? with
    | some id => s!"#{id} {command}"
    | none => command
  let size := cyan.paint (count actions.length "action")
  s!"{green.paint head} {size}" :: actionLines actions

/-- A rejection with the places in the command that are wrong. Columns are counted from 1. Where no
label finds a place, there is nothing to draw below the head. -/
def placedLines (command : String) (reason : Rejection) (labels : List Label) : List String :=
  let head := s!"report: [{reason.code.id}] Error: {reason.message}"
  match labels.find? (Label.isPlaced command.length) with
  | none => [head]
  | some first =>
    let written := labels.filter (Label.isWithin command.length)
    [head, s!"at: <command>:1:{first.place.start + 1}"] ++
      written.map (fun label => s!"label: {label.text}") ++ [s!"help: {reason.code.explanation}"]

/-- A rejection without a place: the findings that say more than the rejection itself. -/
def unplacedLines (reason : Rejection) (diagnostics : List Diagnostic) : List String :=
  let further := diagnostics.filter (·.id ≠ reason.code.id)
  (red.paint "error" ++ s!"[{reason.code.id}]: {reason.message}") ::
    (further.map (fun diagnostic => s!"  - {diagnostic.labelText}") ++
      [s!"  = help: {reason.code.explanation}"])

/-- A rejected command. -/
def rejectedLines (command : String) (reason : Rejection) (diagnostics : List Diagnostic) :
    List String :=
  match Label.ofDiagnostics command diagnostics with
  | [] => unplacedLines reason diagnostics
  | labels => placedLines command reason labels

/-- How a finding is introduced. -/
def introduction : Severity → String
  | .error => red.paint "error"
  | .warn => yellow.paint "warning"
  | .info => blue.paint "note"

/-- The findings that reject nothing. -/
def noteLines (diagnostics : List Diagnostic) : List String :=
  (diagnostics.filter (!·.isError)).map fun diagnostic =>
    s!"  {introduction diagnostic.severity}[{diagnostic.id}]: {diagnostic.message}"

/-- A command that was only looked at. -/
def interpretationOutput (command : String) : Interpretation → Output
  | .accepted actions diagnostics =>
    .ofResults (acceptedLines none command actions) ++ .ofRemarks (noteLines diagnostics)
  | .rejected reason diagnostics =>
    .ofRemarks (rejectedLines command reason diagnostics ++ noteLines diagnostics)

/-- The colour of a notice. -/
def noticeColour : NoticeKind → Colour
  | .success => green
  | .error => red

/-- A command that was simulated: the notice that was sent, and then what came of it. -/
def batchItemOutput (item : BatchItem) : Output :=
  let notice := item.report.notice
  let outcome : Output := match item.report with
    | .recorded runId _ => .ofResults (acceptedLines (some runId) item.command item.actions)
    | .rejected reason diagnostics => .ofRemarks (rejectedLines item.command reason diagnostics)
  .ofRemarks [(noticeColour notice.kind).paint notice.message] ++ outcome ++
    .ofRemarks (noteLines item.report.diagnostics)

/-- How many of the submitted commands were recorded. -/
def tallyLine (recorded submitted : Nat) : String :=
  (if recorded = submitted then green else yellow).paint
    s!"{recorded} of {submitted} command(s) recorded"

/-- A run with its actions. Its moment is shown in whole seconds. -/
def runLines (run : Run) : List String :=
  let moment := { run.timestamp with nanoseconds := 0 }.text
  let size := count run.actions.length "action"
  [s!"#{run.id} {cyan.paint moment} {run.label} {size}",
    s!"  command: {run.command}"] ++ actionLines run.actions

/-- The runs of a ledger, newest first. -/
def ledgerLines : Ledger → List String
  | [] => ["(no simulations recorded)"]
  | ledger => ledger.flatMap runLines

/-- A forklift on one line, with its fields set apart by tabs. -/
def equipmentLine (equipment : Equipment) : String :=
  s!"{equipment.modelNumber}\t{equipment.name}\t{equipment.manufacturingDate}"

/-- An inventory, and the number of its forklifts. -/
def inventoryOutput (inventory : Inventory) : Output :=
  ⟨inventory.map equipmentLine, [s!"{inventory.length} record(s)"]⟩

/-- The explanation of an identifier. -/
def explanationLine (id : String) : String :=
  match explain? id with
  | some explanation => s!"{cyan.paint id}: {explanation}"
  | none => s!"{id}: (no explanation available)"

end Forklift.Terminal
