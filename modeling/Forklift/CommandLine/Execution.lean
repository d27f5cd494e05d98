import Forklift.CommandLine.Arguments
import Forklift.Inventory.Cache
import Forklift.Json.Printer
import Forklift.Terminal.Listing

/-! # Execution

A task is carried out on the files as they are and at given moments. It tells what to print and how
the program ends: well, with something rejected or failed, or with a command line that is no request.
An inventory that cannot be loaded ends a task before any command is simulated.
-/

namespace Forklift.CommandLine

open Terminal (Output)

/-- How the program ends. -/
inductive Ending where
  | success
  | failure
  | misuse
deriving DecidableEq, Repr

namespace Ending

/-- The exit status. -/
def status : Ending → Nat
  | success => 0
  | failure => 1
  | misuse => 2

def ofBool (ok : Bool) : Ending :=
  if ok then success else failure

theorem status_ofBool (ok : Bool) : (ofBool ok).status = if ok then 0 else 1 := by
  cases ok <;> rfl

end Ending

/-- What is printed, and how the program ends. -/
structure Finished where
  ending : Ending
  output : Output
deriving DecidableEq, Repr

/-- A value as another program reads it, with the names of each object in order. -/
def document (value : Json) : Output :=
  .ofResults [value.sortNames.indented]

/-- The list of forklifts as another program reads it. It can be imported again. -/
def inventoryText (inventory : Inventory) : String :=
  inventory.toJson.indented

/-- A failure: what was attempted, and the messages from the error down to its first cause. -/
structure Failure where
  attempt : String
  error : InventoryError
deriving DecidableEq, Repr

namespace Failure

def message (failure : Failure) : String :=
  ": ".intercalate (failure.attempt :: failure.error.chain)

def finished (format : OutputFormat) (failure : Failure) : Finished :=
  { ending := .failure
    output := match format with
      | .pretty => .ofRemarks [s!"error: {failure.message}"]
      | .json => document (.object [
          ("success", .bool false),
          ("error", .string "command_failed"),
          ("message", .string failure.message)]) }

end Failure

/-- Loads an inventory as a session needs it: through a cache, in a single attempt. -/
def loadInventory (files : FileView) (path : String) : Except Failure Inventory :=
  let cache := Cache.empty Cache.standardFreshness (.immediate 1)
  (cache.get (Source.ofFile path) 0 files).result.mapError
    (Failure.mk s!"failed to load inventory '{path}'")

/-- The inventory of a task, which is empty if no file is named. -/
def inventoryOf (files : FileView) : Option String → Except Failure Inventory
  | some path => loadInventory files path
  | none => .ok []

def interpretationJson (interpretation : Interpretation) : Json :=
  .object [
    ("ok", .bool interpretation.ok),
    ("message", (interpretation.rejection?.map (.string ·.message)).getD .null),
    ("actions", .array (interpretation.actions.map Action.toJson)),
    ("diagnostics", .array (interpretation.diagnostics.map Diagnostic.toJson))]

def check (format : OutputFormat) (command : String) : Finished :=
  let interpretation := interpret command
  { ending := .ofBool interpretation.ok
    output := match format with
      | .pretty => Terminal.interpretationOutput command interpretation
      | .json => document (interpretationJson interpretation) }

/-- A new session in which a forklift may be selected. -/
def sessionFor (equipment : Option String) : Session :=
  (equipment.map Session.empty.select).getD .empty

/-- The commands of a task, each at the moment of its place in the list. -/
def simulateAll (clock : Nat → Timestamp) (inventory : Inventory) (equipment : Option String)
    (commands : List String) : List BatchItem × Session :=
  (sessionFor equipment).batch inventory (commands.mapIdx fun i command => (command, clock i))

/-- The notice of a simulation in plain text. -/
def noticeLine (notice : Notice) : String :=
  match notice.kind with
  | .success => s!"info: {notice.message}"
  | .error => s!"error: {notice.message}"

def batchJson (ok : Bool) (items : List BatchItem) (ledger : Ledger) : Json :=
  .object [
    ("ok", .bool ok),
    ("reports", .array (items.map (·.report.toJson))),
    ("ledger", ledger.toJson)]

/-- The output of a batch that is over. -/
def batchOutput (format : OutputFormat) (ok : Bool) (items : List BatchItem) (ledger : Ledger) :
    Output :=
  match format with
  | .pretty =>
    .join (items.map Terminal.batchItemOutput) ++
      .ofRemarks [Terminal.tallyLine ledger.length items.length] ++
      .ofResults (Terminal.ledgerLines ledger)
  | .json =>
    .ofRemarks (items.map (noticeLine ·.report.notice)) ++ document (batchJson ok items ledger)

def simulate (format : OutputFormat) (files : FileView) (clock : Nat → Timestamp)
    (path : Option String) (equipment : Option String) (commands : List String) : Finished :=
  match inventoryOf files path with
  | .error failure => failure.finished format
  | .ok inventory =>
    let (items, session) := simulateAll clock inventory equipment commands
    let ok := items.all (·.report.ok)
    { ending := .ofBool ok, output := batchOutput format ok items session.ledger }

def listInventory (format : OutputFormat) (files : FileView) (path : String) : Finished :=
  match Inventory.importFile files path with
  | .error error =>
    Failure.finished format ⟨s!"failed to import inventory '{path}'", error⟩
  | .ok inventory =>
    { ending := .success
      output := match format with
        | .pretty => Terminal.inventoryOutput inventory
        | .json => .ofResults [inventoryText inventory] }

def explain (format : OutputFormat) (id : String) : Finished :=
  { ending := .success
    output := match format with
      | .pretty => .ofResults [Terminal.explanationLine id]
      | .json => document (.object [
          ("id", .string id),
          ("explanation", ((explain? id).map .string).getD .null)]) }

/-- Carries out a task. -/
def Task.perform (task : Task) (format : OutputFormat) (files : FileView)
    (clock : Nat → Timestamp) : Finished :=
  match task with
  | .check command => CommandLine.check format command
  | .simulate path equipment commands =>
    CommandLine.simulate format files clock path equipment commands
  | .inventory path => listInventory format files path
  | .explain id => CommandLine.explain format id

/-- How the program is used. -/
def usage : List String := [
  "usage: forklift [--output pretty|json] TASK",
  "tasks:",
  "  check COMMAND      interpret a command",
  "  simulate [--inventory FILE] [--equipment MODEL] COMMAND...",
  "                     simulate commands in one session",
  "  inventory FILE     list the forklifts of a file",
  "  explain ID         explain a diagnostic"]

/-- The name and the version of the program. -/
def versionLine : String :=
  "forklift 0.1.0"

/-- What is printed where there is nothing to do. -/
def Refusal.finished : Refusal → Finished
  | .misuse fault => ⟨.misuse, .ofRemarks (s!"error: {fault.message}" :: usage)⟩
  | .help => ⟨.success, .ofResults usage⟩
  | .version => ⟨.success, .ofResults [versionLine]⟩

/-- Runs the program on the words of a command line. -/
def execute (words : List String) (toTerminal : Bool) (files : FileView)
    (clock : Nat → Timestamp) : Finished :=
  match Request.ofWords words with
  | .error refusal => refusal.finished
  | .ok request => request.task.perform (.resolve request.output toTerminal) files clock

end Forklift.CommandLine
