import Forklift.Proofs.Diagnostic.ReadBack
import Forklift.Proofs.Inventory.Export
import Forklift.Proofs.Json.Documents

/-! # What documents tell

What is printed for programs is read back as a tree, and the fields of the tree tell what was printed: of
an action its kind, magnitude, description and arrow; of a report how the simulation ended; of a run its
id, its command and its actions, which are the ones that a check of the command prints.
-/

namespace Forklift

theorem Magnitude.plain_toJson (magnitude : Magnitude) : magnitude.toJson.Plain := by
  unfold toJson
  split <;> simp

theorem Action.plain_toJson (action : Action) : action.toJson.Plain := by
  simp [toJson, Direction.toJson, Magnitude.plain_toJson]

theorem Report.plain_toJson (report : Report) : report.toJson.Plain := by
  simp [toJson, Diagnostic.plain_toJson]

theorem Run.plain_toJson (run : Run) : run.toJson.Plain := by
  simp [toJson, Equipment.plain_toJson, Action.plain_toJson]

namespace CommandLine

theorem plain_interpretationJson (interpretation : Interpretation) :
    (interpretationJson interpretation).Plain := by
  cases interpretation <;>
    simp [interpretationJson, Interpretation.rejection?, Action.plain_toJson,
      Diagnostic.plain_toJson]

theorem plain_batchJson (ok : Bool) (items : List BatchItem) (ledger : Ledger) :
    (batchJson ok items ledger).Plain := by
  simp [batchJson, Ledger.toJson, Report.plain_toJson, Run.plain_toJson]

/-! ## Told parts -/

/-- Whether a tree tells of an action. -/
def TellsAction (action : Action) (tree : Json.Tree) : Prop :=
  tree.fields? ["kind", "magnitude", "description", "glyph"] = some [
    some (.string (some action.kind.name)), some action.magnitude.toJson.tree,
    some (.string (some action.description)), some (.string (some action.glyph.name))]

theorem tellsAction_toJson (action : Action) : TellsAction action action.toJson.documentTree := by
  have magnitude : action.magnitude.toJson.documentTree = action.magnitude.toJson.tree := by
    unfold Magnitude.toJson
    split <;> rfl
  rw [TellsAction, ← magnitude, Action.toJson, Json.fields?_documentTree]
  rfl

/-- Whether trees are the actions that a check of a command prints. -/
def ChecksAs (command : String) (listed : List Json.Tree) : Prop :=
  ∃ text tree, (check .json command).output.results = [text] ∧
    Json.Tree.ofText? text = some tree ∧ tree.fields? ["actions"] = some [some (.array listed)]

theorem checksAs_actions (command : String) :
    ChecksAs command ((interpret command).actions.map (·.toJson.documentTree)) := by
  refine ⟨_, _, rfl, Json.ofText?_document (plain_interpretationJson (interpret command)), ?_⟩
  rw [interpretationJson, Json.fields?_documentTree, ← Json.documentTree_map Action.toJson]
  rfl

/-- Whether a tree tells of a run. Its actions are the ones that a check of the command prints. -/
def TellsRun (id : Nat) (command : String) (actions : List Action) (tree : Json.Tree) : Prop :=
  ∃ listed, tree.fields? ["id", "command", "actions"] = some [some (.number (.ofNat id)),
      some (.string (some command)), some (.array listed)] ∧
    List.Forall₂ TellsAction actions listed ∧ ChecksAs command listed

theorem tellsRun_toJson {run : Run} (meant : run.actions = (interpret run.command).actions) :
    TellsRun run.id run.command run.actions run.toJson.documentTree := by
  refine ⟨run.actions.map (·.toJson.documentTree), ?_, ?_, ?_⟩
  · rw [Run.toJson, Json.objectOf, Json.fields?_documentTree,
      ← Json.documentTree_map Action.toJson]
    cases run.equipment <;> rfl
  · rw [List.forall₂_map_right_iff, List.forall₂_same]
    exact fun action _ => tellsAction_toJson action
  · rw [meant]
    exact checksAs_actions run.command

/-- Whether a tree tells of a report. -/
def TellsReport (report : Report) (tree : Json.Tree) : Prop :=
  tree.fields? ["ok", "error", "message", "run_id", "diagnostics"] = some [
    some (.bool report.ok), report.rejection?.map fun reason => .string (some reason.name),
    some (.string (some report.message)), report.runId?.map fun id => .number (.ofNat id),
    some (.array (report.diagnostics.map (·.toJson.documentTree)))]

theorem tellsReport_toJson (report : Report) : TellsReport report report.toJson.documentTree := by
  rw [TellsReport, Report.toJson, Json.objectOf, Json.fields?_documentTree,
    ← Json.documentTree_map Diagnostic.toJson]
  cases report <;> rfl

/-- Whether a text tells of a batch: whether it ended well, its reports in their order, and its runs. -/
def TellsBatch (ok : Bool) (items : List BatchItem) (runs : List (Nat × String × List Action))
    (text : String) : Prop :=
  ∃ tree reports ledger, Json.Tree.ofText? text = some tree ∧
    tree.fields? ["ok", "reports", "ledger"] = some [
      some (.bool ok), some (.array reports), some (.array ledger)] ∧
    List.Forall₂ (fun item => TellsReport item.report) items reports ∧
    List.Forall₂ (fun (id, command, actions) => TellsRun id command actions) runs ledger

/-- The document of a batch tells of it, if each run did what its command asks for. -/
theorem tellsBatch_document (ok : Bool) (items : List BatchItem) {ledger : Ledger}
    (meant : ∀ run ∈ ledger, run.actions = (interpret run.command).actions) :
    ∃ text, (document (batchJson ok items ledger)).results = [text] ∧
      TellsBatch ok items (ledger.map Run.content) text := by
  refine ⟨_, rfl, _, items.map (·.report.toJson.documentTree), ledger.map (·.toJson.documentTree),
    Json.ofText?_document (plain_batchJson ok items ledger), ?_, ?_, ?_⟩
  · rw [batchJson, Ledger.toJson, Json.fields?_documentTree, ← Json.documentTree_map Run.toJson,
      ← Json.documentTree_map (fun item : BatchItem => item.report.toJson)]
    rfl
  · rw [List.forall₂_map_right_iff, List.forall₂_same]
    exact fun item _ => tellsReport_toJson item.report
  · rw [List.forall₂_map_left_iff, List.forall₂_map_right_iff, List.forall₂_same]
    exact fun run member => tellsRun_toJson (meant run member)

end CommandLine

end Forklift
