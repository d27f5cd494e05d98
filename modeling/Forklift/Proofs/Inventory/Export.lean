import Forklift.CommandLine.Execution
import Forklift.Proofs.Inventory.Imports
import Forklift.Proofs.Json.Trees

/-! # Exported inventories

The list that is printed for programs can be imported again, and gives the forklifts that were printed in
their order. That holds of every list whose forklifts have all fields, whatever characters are in them,
and so of everything that has been imported, whichever keys and format its source used.
-/

namespace Forklift

open CommandLine (Task inventoryText)
open Terminal (Output)

namespace Equipment

theorem plain_toJson (equipment : Equipment) : equipment.toJson.Plain := by
  simp [toJson]

/-- The keys under which a record is written are the canonical ones. -/
theorem describes_toJson_iff (equipment : Equipment) :
    Inventory.Describes equipment.toJson equipment ↔ equipment.IsFilled := by
  constructor
  · exact Inventory.Describes.fields_ne_empty
  · rintro ⟨name, modelNumber, manufacturingDate⟩
    exact ⟨_, rfl, ⟨name, .inl rfl⟩, ⟨modelNumber, .inl rfl⟩, ⟨manufacturingDate, .inl rfl⟩⟩

end Equipment

namespace Inventory

theorem plain_toJson (inventory : Inventory) : inventory.toJson.Plain := by
  simp [toJson, Equipment.plain_toJson]

/-- The trees of records are read as the records. -/
theorem values?_records (nesting : Nat) (done : List Json) (inventory : Inventory) :
    Json.Tree.values? (nesting + 1) done (Json.treesOfItems (inventory.map Equipment.toJson)) =
      some (done.reverse ++ inventory.map Equipment.toJson) := by
  induction inventory generalizing done with
  | nil => simp [Json.treesOfItems, Json.Tree.values?]
  | cons equipment rest ih =>
    have value : Json.Tree.value? (nesting + 1) equipment.toJson.tree = some equipment.toJson := rfl
    simp [Json.treesOfItems, Json.Tree.values?, value, ih]

/-- What is printed for a list is read as the value of the list, whatever blanks follow. -/
theorem ofText?_inventoryText (inventory : Inventory) {blanks : List Char}
    (trailing : blanks.all Json.Token.isBlank = true) :
    Json.ofText? (inventoryText inventory ++ String.ofList blanks) = some inventory.toJson := by
  have read := Json.Tree.ofText?_spell Json.isBlank_indented inventory.plain_toJson 0 trailing
  have value : Json.Tree.value? Json.maxNesting inventory.toJson.tree = some inventory.toJson := by
    rw [toJson, Json.tree, Json.maxNesting, Json.Tree.value?, values?_records]
    rfl
  rw [String.ofList_append] at read
  rw [Json.ofText?, inventoryText, Json.indented, read, Option.bind_some, value]

/-- A printed list is imported as it was exactly where all of its forklifts have all fields. -/
theorem ofJsonText_inventoryText_iff (inventory : Inventory) {blanks : List Char}
    (trailing : blanks.all Json.Token.isBlank = true) :
    ofJsonText (inventoryText inventory ++ String.ofList blanks) = .ok inventory ↔
      ∀ equipment ∈ inventory, equipment.IsFilled := by
  rw [ofJsonText, ofText?_inventoryText inventory trailing]
  rw [toJson, normalize_array_eq_ok_iff, List.forall₂_map_left_iff, List.forall₂_same]
  simp only [Equipment.describes_toJson_iff]

theorem textOf_singleton (line : String) :
    Output.textOf [line] = line ++ String.ofList ['\n'] :=
  String.append_empty

/-- What is imported from a file is what some text is imported as. -/
theorem exists_load_of_importFile {files : FileView} {path : String} {inventory : Inventory}
    (imported : importFile files path = .ok inventory) :
    ∃ (format : ImportFormat) (text : String), format.load text = .ok inventory := by
  simp only [importFile, bind_eq_ok_iff] at imported
  obtain ⟨size, -, format, -, content, -, loaded⟩ := imported
  split at loaded
  · exact ⟨format, _, loaded⟩
  · cases loaded

/-- The text of a list, with the line break behind it or without, is imported as the list exactly where
all of its forklifts have all fields. So whatever a text or a file has been imported as, nothing changes
when it is printed and what is printed is imported. -/
theorem import_of_export (clock : Nat → Timestamp) :
    (∀ inventory : Inventory,
      (ofJsonText (inventoryText inventory) = .ok inventory ↔
        ∀ equipment ∈ inventory, equipment.IsFilled) ∧
      (ofJsonText (Output.textOf [inventoryText inventory]) = .ok inventory ↔
        ∀ equipment ∈ inventory, equipment.IsFilled)) ∧
    (∀ (format : ImportFormat) text inventory, format.load text = .ok inventory →
      ofJsonText (Output.textOf [inventoryText inventory]) = .ok inventory) ∧
    ∀ files path inventory, importFile files path = .ok inventory →
      let finished := (Task.inventory path).perform .json files clock
      finished.ending.status = 0 ∧ finished.output.remarks = [] ∧
        finished.output.results = [inventoryText inventory] ∧
        ofJsonText (Output.textOf finished.output.results) = .ok inventory := by
  have line (inventory : Inventory) :
      ofJsonText (Output.textOf [inventoryText inventory]) = .ok inventory ↔
        ∀ equipment ∈ inventory, equipment.IsFilled := by
    rw [textOf_singleton]
    exact ofJsonText_inventoryText_iff inventory rfl
  refine ⟨fun inventory => ⟨?_, line inventory⟩, ?_, ?_⟩
  · have bare := @ofJsonText_inventoryText_iff inventory [] rfl
    rwa [String.ofList_nil, String.append_empty] at bare
  · intro format text inventory loaded
    exact (line inventory).mpr (ImportFormat.isFilled_of_load loaded)
  · intro files path inventory imported
    obtain ⟨format, text, loaded⟩ := exists_load_of_importFile imported
    have ended : (Task.inventory path).perform .json files clock =
        ⟨.success, .ofResults [inventoryText inventory]⟩ := by
      simp only [Task.perform, CommandLine.listInventory, imported]
    rw [ended]
    exact ⟨rfl, rfl, rfl, (line inventory).mpr (ImportFormat.isFilled_of_load loaded)⟩

/-- A name with quotes, a line break, a backslash and a control character comes from a table under other
keys, is printed under the canonical ones, and is imported as it was. -/
theorem import_of_export_of_table :
    let text := "Name,model_number,manufacturingDate\n\"A \"\"é\"\"\n\\\x01\",M-1,2023\n"
    let inventory : Inventory := [⟨"A \"é\"\n\\\x01", "M-1", "2023"⟩]
    let files := (FileTree.empty.insert "fleet.csv" (.file text.toUTF8)).view
    ofCsvText text = .ok inventory ∧
      ofJsonText (Output.textOf [inventoryText inventory]) = .ok inventory ∧
      ((Task.inventory "fleet.csv").perform .json files fun _ => ⟨0, 0⟩).output.results =
        [inventoryText inventory] := by
  intro text inventory files
  have loaded : ofCsvText text = .ok inventory := by decide +kernel
  have imported : importFile files "fleet.csv" = .ok inventory := by decide +kernel
  obtain ⟨-, again, printed⟩ := import_of_export fun _ => ⟨0, 0⟩
  obtain ⟨-, -, results, -⟩ := printed files "fleet.csv" inventory imported
  exact ⟨loaded, again .csv text inventory loaded, results⟩

end Inventory

end Forklift
