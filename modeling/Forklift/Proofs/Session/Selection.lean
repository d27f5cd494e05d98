import Forklift.Proofs.Inventory.Imports
import Forklift.Proofs.Session.Simulations

/-! # Selecting an imported forklift

Every imported forklift has a model number that can be selected, but two forklifts of one inventory may
share theirs. So a run that is recorded for a selected model number has the first forklift of the
inventory with that number, and has the forklift meant only if the forklifts before it differ in theirs.
-/

namespace Forklift

/-- The forklift that a model number stands for in an inventory: the first one that has it. -/
def Inventory.IsFirst (inventory : Inventory) (modelNumber : String) (equipment : Equipment) : Prop :=
  equipment.modelNumber = modelNumber ∧
    ∃ before after, inventory = before ++ equipment :: after ∧
      ∀ other ∈ before, other.modelNumber ≠ modelNumber

namespace Inventory

variable {inventory : Inventory} {modelNumber : String} {equipment : Equipment}

theorem resolve?_eq_some_iff :
    inventory.resolve? modelNumber = some equipment ↔ inventory.IsFirst modelNumber equipment := by
  simp [resolve?, List.find?_eq_some_iff_append, IsFirst]

/-- The model number of each forklift stands for some forklift. -/
theorem exists_isFirst (member : equipment ∈ inventory) :
    ∃ first, inventory.IsFirst equipment.modelNumber first := by
  cases found : inventory.resolve? equipment.modelNumber with
  | some first => exact ⟨first, resolve?_eq_some_iff.mp found⟩
  | none =>
    have nowhere := List.find?_eq_none.mp found equipment member
    exact absurd (beq_self_eq_true equipment.modelNumber) nowhere

theorem IsFirst.mem (isFirst : inventory.IsFirst modelNumber equipment) : equipment ∈ inventory := by
  obtain ⟨-, before, after, rfl, -⟩ := isFirst
  exact List.mem_append_cons_self

end Inventory

/-- A selected model number that stands for a forklift has that forklift recorded with each command that
is accepted. -/
theorem Session.simulate_of_isFirst {inventory : Inventory} {modelNumber command : String}
    {first : Equipment} {actions : List Action} {diagnostics : List Diagnostic}
    (isFirst : inventory.IsFirst modelNumber first) (filled : modelNumber ≠ "")
    (meaning : interpret command = .accepted actions diagnostics)
    (session : Session) (notices : List Notice) (timestamp : Timestamp) :
    let simulated :=
      ((session.select modelNumber).setCommand command).simulate notices inventory timestamp
    let id := session.ledger.length + 1
    simulated.report = .recorded id [] ∧
      simulated.session.ledger = ⟨id, timestamp, some first, command, actions⟩ :: session.ledger := by
  intro simulated id
  have found : inventory.resolve? ((session.select modelNumber).setCommand command).selection =
      some first := Inventory.resolve?_eq_some_iff.mpr isFirst
  have ran := @run_of_accepted ((session.select modelNumber).setCommand command) _ _ filled
    meaning inventory timestamp
  rw [found] at ran
  simp only [simulated, simulate, ran]
  exact ⟨rfl, rfl⟩

/-- Each imported forklift has a model number. Where it is selected, a command that is accepted is
recorded with the first forklift of the inventory that has the number, and that is the forklift itself
if no other one shares it. -/
theorem imported_model_number_stands_for_first {format : ImportFormat} {text : String}
    {inventory : Inventory} (imported : format.load text = .ok inventory) {equipment : Equipment}
    (member : equipment ∈ inventory) :
    equipment.modelNumber ≠ "" ∧
      ∃ first, inventory.IsFirst equipment.modelNumber first ∧
        ((∀ other ∈ inventory, other.modelNumber = equipment.modelNumber → other = equipment) →
          first = equipment) ∧
        ∀ (session : Session) command actions diagnostics notices timestamp,
          interpret command = .accepted actions diagnostics →
          let simulated := ((session.select equipment.modelNumber).setCommand command).simulate
            notices inventory timestamp
          let id := session.ledger.length + 1
          simulated.report = .recorded id [] ∧
            simulated.session.ledger =
              ⟨id, timestamp, some first, command, actions⟩ :: session.ledger := by
  obtain ⟨-, filled, -⟩ := ImportFormat.isFilled_of_load imported equipment member
  obtain ⟨first, isFirst⟩ := Inventory.exists_isFirst member
  refine ⟨filled, first, isFirst, ?_, ?_⟩
  · intro alone
    exact alone first isFirst.mem isFirst.1
  · intro session command actions diagnostics notices timestamp meaning
    exact Session.simulate_of_isFirst isFirst filled meaning session notices timestamp

/-- The second forklift of a table shares its model number with the first one, and selecting it has the
first one recorded. The third one has a number of its own. -/
theorem imported_model_number_stands_for_first_of_three :
    let text := "name,modelNumber,manufacturingDate\nA,M-1,2020\nB,M-1,2021\nC,M-2,2022\n"
    let second : Equipment := ⟨"B", "M-1", "2021"⟩
    let third : Equipment := ⟨"C", "M-2", "2022"⟩
    let inventory : Inventory := [⟨"A", "M-1", "2020"⟩, second, third]
    let recorded (equipment : Equipment) := (((Session.empty.select equipment.modelNumber).setCommand
      "F1R90").simulate [] inventory ⟨0, 0⟩).session.ledger.map Run.equipment
    ImportFormat.csv.load text = .ok inventory ∧
      recorded second = [some ⟨"A", "M-1", "2020"⟩] ∧ recorded third = [some third] := by
  intro text second third inventory recorded
  have imported : ImportFormat.csv.load text = .ok inventory := by decide +kernel
  have meaning : interpret "F1R90" = .accepted (interpret "F1R90").actions [] := by decide +kernel
  have alone : ∀ other ∈ inventory, other.modelNumber = third.modelNumber → other = third := by
    decide
  obtain ⟨-, chosen, isFirst, -, chosenTold⟩ :=
    imported_model_number_stands_for_first imported (show second ∈ inventory by decide)
  obtain ⟨-, found, -, same, foundTold⟩ :=
    imported_model_number_stands_for_first imported (show third ∈ inventory by decide)
  obtain rfl : chosen = ⟨"A", "M-1", "2020"⟩ :=
    Option.some.inj ((Inventory.resolve?_eq_some_iff.mpr isFirst).symm.trans (by decide))
  obtain rfl : found = third := same alone
  exact ⟨imported, congrArg (List.map Run.equipment) (chosenTold .empty _ _ _ [] ⟨0, 0⟩ meaning).2,
    congrArg (List.map Run.equipment) (foundTold .empty _ _ _ [] ⟨0, 0⟩ meaning).2⟩

/-- Two forklifts of one model number are imported, and the second one cannot be selected: its number has
the first one recorded. -/
theorem shared_model_number_is_imported :
    let text := "name,modelNumber,manufacturingDate\nA,M-1,2020\nB,M-1,2021\n"
    let first : Equipment := ⟨"A", "M-1", "2020"⟩
    let second : Equipment := ⟨"B", "M-1", "2021"⟩
    ImportFormat.csv.load text = .ok [first, second] ∧
      ¬ ([first, second].map Equipment.modelNumber).Nodup ∧ (interpret "F1").ok = true ∧
      (((Session.empty.select second.modelNumber).setCommand "F1").simulate [] [first, second]
        ⟨0, 0⟩).session.ledger.map Run.equipment = [some first] ∧ first ≠ second := by
  decide +kernel

end Forklift
