import Forklift.Proofs.Command.Findings
import Forklift.Proofs.Session.Simulations

/-! # What a report hangs on

Whether a simulation is accepted, and what is told of a rejection, hangs on the selection and the command
alone. The report of a recorded run has the id of the run besides, and a remark exactly if no forklift of
the inventory has the selected model number. The remark is no error, and a rejection always has one, so
the findings of a report tell whether it is one of a rejection.
-/

namespace Forklift

namespace Inventory

/-- Whether some forklift has a model number. -/
def Has (inventory : Inventory) (modelNumber : String) : Prop :=
  ∃ equipment ∈ inventory, equipment.modelNumber = modelNumber

instance (inventory : Inventory) (modelNumber : String) : Decidable (inventory.Has modelNumber) :=
  inferInstanceAs (Decidable (∃ equipment ∈ inventory, equipment.modelNumber = modelNumber))

/-- A model number stands for a forklift exactly where some forklift has it. -/
theorem isSome_resolve?_iff {inventory : Inventory} {modelNumber : String} :
    (inventory.resolve? modelNumber).isSome = true ↔ inventory.Has modelNumber := by
  simp [resolve?, Has, List.find?_isSome]

end Inventory

namespace Session

theorem report_simulate (session : Session) (notices : List Notice) (inventory : Inventory)
    (timestamp : Timestamp) :
    (session.simulate notices inventory timestamp).report = (session.run inventory timestamp).1 := rfl

theorem session_simulate (session : Session) (notices : List Notice) (inventory : Inventory)
    (timestamp : Timestamp) :
    (session.simulate notices inventory timestamp).session = (session.run inventory timestamp).2 := rfl

/-- The remarks about a run that is recorded for a selected model number. -/
def remarks (modelNumber : String) (inventory : Inventory) : List Diagnostic :=
  if inventory.Has modelNumber then [] else [notInInventory modelNumber]

theorem remarks_eq (modelNumber : String) (inventory : Inventory) :
    remarks modelNumber inventory =
      if (inventory.resolve? modelNumber).isNone then [notInInventory modelNumber] else [] := by
  have found := @Inventory.isSome_resolve?_iff inventory modelNumber
  unfold remarks
  cases resolved : inventory.resolve? modelNumber with
  | none =>
    rw [resolved] at found
    rw [if_neg (mt found.2 nofun)]
    rfl
  | some equipment =>
    rw [resolved] at found
    rw [if_pos (found.1 rfl)]
    rfl

theorem remarks_eq_nil_iff {modelNumber : String} {inventory : Inventory} :
    remarks modelNumber inventory = [] ↔ (inventory.resolve? modelNumber).isSome = true := by
  rw [Inventory.isSome_resolve?_iff, remarks, ite_eq_left_iff]
  simp

theorem eq_of_mem_remarks {modelNumber : String} {inventory : Inventory} {finding : Diagnostic}
    (member : finding ∈ remarks modelNumber inventory) : finding = notInInventory modelNumber := by
  unfold remarks at member
  split at member
  · contradiction
  · exact List.mem_singleton.1 member

/-- A remark is no error. -/
theorem severity_of_mem_remarks {modelNumber : String} {inventory : Inventory}
    {finding : Diagnostic} (member : finding ∈ remarks modelNumber inventory) :
    finding.severity = .info := by
  rw [eq_of_mem_remarks member]
  rfl

/-- A remark points at no place. -/
theorem span_of_mem_remarks {modelNumber : String} {inventory : Inventory} {finding : Diagnostic}
    (member : finding ∈ remarks modelNumber inventory) : finding.span = none := by
  rw [eq_of_mem_remarks member]
  rfl

end Session

namespace Report

/-- The report that a selection and a command make for. The id and the inventory only have a part in it
where a run is recorded. -/
def told (selection command : String) (id : Nat) (inventory : Inventory) : Report :=
  if selection = "" then .rejected .selectionMissing [Session.selectionMissing]
  else
    match interpret command with
    | .rejected reason diagnostics => .rejected reason diagnostics
    | .accepted _ _ => .recorded id (Session.remarks selection inventory)

/-- A report is told either of a rejection, whatever the id and the inventory, or of a run. -/
theorem told_cases (selection command : String) :
    (∃ reason diagnostics, ∀ id inventory,
      told selection command id inventory = .rejected reason diagnostics) ∨
    ∀ id inventory,
      told selection command id inventory = .recorded id (Session.remarks selection inventory) := by
  unfold told
  split
  · exact .inl ⟨_, _, fun _ _ => rfl⟩
  · cases interpret command with
    | rejected reason diagnostics => exact .inl ⟨_, _, fun _ _ => rfl⟩
    | accepted actions => exact .inr fun _ _ => rfl

/-- The findings of a rejection: there is one, all of them are errors, and those that point at a place
point into the command. -/
theorem errors_of_told {selection command : String} {id : Nat} {inventory : Inventory}
    {reason : Rejection} {diagnostics : List Diagnostic}
    (rejected : told selection command id inventory = .rejected reason diagnostics) :
    diagnostics ≠ [] ∧ ∀ finding ∈ diagnostics, finding.severity = .error ∧
      ∀ span ∈ finding.span, span.IsPlaceIn command := by
  unfold told at rejected
  split at rejected
  · obtain ⟨-, rfl⟩ := Report.rejected.inj rejected
    exact ⟨List.cons_ne_nil _ _, List.forall_mem_singleton.2 ⟨rfl, nofun⟩⟩
  · split at rejected
    · rename_i meaning
      obtain ⟨rfl, rfl⟩ := Report.rejected.inj rejected
      obtain ⟨some_finding, points⟩ := findings_of_rejected meaning
      refine ⟨some_finding, ?_⟩
      intro finding member
      obtain ⟨severity, place, found, inside⟩ := points finding member
      refine ⟨severity, ?_⟩
      rintro span present
      obtain rfl := Option.some.inj (found.symm.trans present)
      exact inside
    · contradiction

/-- A report is told of a rejection exactly if one of its findings is an error. -/
theorem ok_told_iff (selection command : String) (id : Nat) (inventory : Inventory) :
    (told selection command id inventory).ok = true ↔
      ∀ finding ∈ (told selection command id inventory).diagnostics, finding.severity ≠ .error := by
  obtain ⟨reason, diagnostics, rejected⟩ | recorded := told_cases selection command
  · obtain ⟨some_finding, errors⟩ := errors_of_told (rejected id inventory)
    obtain ⟨finding, member⟩ := List.exists_mem_of_ne_nil _ some_finding
    rw [rejected]
    exact iff_of_false nofun fun harmless => harmless finding member (errors finding member).1
  · rw [recorded]
    refine iff_of_true rfl ?_
    intro finding member
    rw [Session.severity_of_mem_remarks member]
    nofun

/-- The findings of a report that point at a place point into the command. -/
theorem isPlaceIn_of_told (selection command : String) (id : Nat) (inventory : Inventory) :
    ∀ finding ∈ (told selection command id inventory).diagnostics, ∀ span ∈ finding.span,
      span.IsPlaceIn command := by
  obtain ⟨reason, diagnostics, rejected⟩ | recorded := told_cases selection command
  · obtain ⟨-, errors⟩ := errors_of_told (rejected id inventory)
    rw [rejected]
    exact fun finding member => (errors finding member).2
  · rw [recorded]
    intro finding member
    rw [Session.span_of_mem_remarks member]
    nofun

/-- A rejection is told with the message of its reason. -/
theorem rejection_of_told {selection command : String} {id : Nat} {inventory : Inventory}
    (refused : (told selection command id inventory).ok = false) :
    ∃ reason, (told selection command id inventory).rejection? = some reason ∧
      (told selection command id inventory).message = reason.message := by
  obtain ⟨reason, diagnostics, rejected⟩ | recorded := told_cases selection command
  · rw [rejected]
    exact ⟨reason, rfl, rfl⟩
  · rw [recorded] at refused
    contradiction

theorem told_of_ok {selection command : String} {id : Nat} {inventory : Inventory}
    (accepted : (told selection command id inventory).ok = true) :
    told selection command id inventory = .recorded id (Session.remarks selection inventory) := by
  obtain ⟨reason, diagnostics, rejected⟩ | recorded := told_cases selection command
  · rw [rejected] at accepted
    contradiction
  · exact recorded id inventory

/-- Two reports of one selection and one command differ at most in the ids and the remarks of runs. -/
theorem told_agree (selection command : String) (id other : Nat)
    (inventory otherInventory : Inventory) :
    let report := told selection command id inventory
    let otherReport := told selection command other otherInventory
    otherReport.ok = report.ok ∧ otherReport.rejection? = report.rejection? ∧
    otherReport.message = report.message ∧ (report.ok = false → otherReport = report) ∧
    (report.ok = true → report = .recorded id (Session.remarks selection inventory) ∧
      otherReport = .recorded other (Session.remarks selection otherInventory)) := by
  intro report otherReport
  obtain ⟨reason, diagnostics, rejected⟩ | recorded := told_cases selection command
  · have same : otherReport = report := (rejected other otherInventory).trans
      (rejected id inventory).symm
    have refused : report.ok = false := congrArg ok (rejected id inventory)
    rw [same, refused]
    exact ⟨rfl, rfl, rfl, fun _ => rfl, nofun⟩
  · have first : report = .recorded id (Session.remarks selection inventory) := recorded id inventory
    have second : otherReport = .recorded other (Session.remarks selection otherInventory) :=
      recorded other otherInventory
    rw [first, second]
    exact ⟨rfl, rfl, rfl, nofun, fun _ => ⟨rfl, rfl⟩⟩

end Report

namespace Session

/-- The report of a simulation is the one that its selection and its command make for. -/
theorem report_simulate_eq_told (session : Session) (notices : List Notice) (inventory : Inventory)
    (timestamp : Timestamp) :
    (session.simulate notices inventory timestamp).report =
      .told session.selection session.command (session.ledger.length + 1) inventory := by
  rw [report_simulate, Report.told]
  split
  · rename_i unselected
    rw [run_of_unselected unselected]
  · rename_i selected
    cases meaning : interpret session.command with
    | rejected reason diagnostics => rw [run_of_rejected selected meaning]
    | accepted actions => rw [run_of_accepted selected meaning, ← remarks_eq]

/-- A simulation that is accepted puts its run in front of the ledger, with the forklift that the
selection stands for. -/
theorem exists_run_of_ok {session : Session} {notices : List Notice} {inventory : Inventory}
    {timestamp : Timestamp}
    (accepted : (session.simulate notices inventory timestamp).report.ok = true) :
    ∃ run : Run, (session.simulate notices inventory timestamp).session.ledger =
        run :: session.ledger ∧
      run.id = session.ledger.length + 1 ∧ run.equipment = inventory.resolve? session.selection := by
  rw [report_simulate] at accepted
  rw [session_simulate]
  obtain unselected | selected := Decidable.em (session.selection = "")
  · rw [run_of_unselected unselected] at accepted
    contradiction
  · cases meaning : interpret session.command with
    | rejected reason diagnostics =>
      rw [run_of_rejected selected meaning] at accepted
      contradiction
    | accepted actions =>
      rw [run_of_accepted selected meaning]
      exact ⟨_, rfl, rfl, rfl⟩

/-- The report of a recorded run has no finding if the forklift of the run is known, and otherwise one
remark. -/
theorem remark_of_ok {session : Session} {notices : List Notice} {inventory : Inventory}
    {timestamp : Timestamp}
    (accepted : (session.simulate notices inventory timestamp).report.ok = true) :
    let simulated := session.simulate notices inventory timestamp
    ∃ run : Run, simulated.session.ledger = run :: session.ledger ∧
      simulated.report.runId? = some run.id ∧
      (simulated.report.diagnostics = [] ↔ run.equipment.isSome = true) ∧
      (run.equipment = none → ∃ remark, simulated.report.diagnostics = [remark] ∧
        remark.severity = .info ∧ remark.id = "FSM3002") := by
  intro simulated
  obtain ⟨run, ledger, number, equipment⟩ := exists_run_of_ok accepted
  rw [report_simulate_eq_told] at accepted
  have report : simulated.report =
      .recorded (session.ledger.length + 1) (remarks session.selection inventory) :=
    (session.report_simulate_eq_told notices inventory timestamp).trans (Report.told_of_ok accepted)
  rw [report]
  refine ⟨run, ledger, congrArg some number.symm, ?_, ?_⟩
  · rw [equipment]
    exact remarks_eq_nil_iff
  · intro unknown
    refine ⟨notInInventory session.selection, ?_, rfl, rfl⟩
    rw [equipment] at unknown
    rw [Report.diagnostics, remarks_eq, unknown]
    rfl

end Session

/-- A report is one of a recorded run exactly if none of its findings is an error. It has no finding then
if the forklift of the run is known, and otherwise one remark. A rejection is told with the message of
its reason. Whatever is found somewhere is found at a place in the command. Simulations of one selection and one command, in
whatever sessions, are all accepted or all rejected for the same reason. Their reports of a rejection are
the same. Those of runs have the next ids of their sessions, and have the same remark or none of them:
each has it if no forklift of its own inventory has the selected model number. -/
theorem report_hangs_on_selection_and_command (session : Session) (notices : List Notice)
    (inventory : Inventory) (timestamp : Timestamp) :
    let simulated := session.simulate notices inventory timestamp
    let report := simulated.report
    (report.ok = true ↔ ∀ finding ∈ report.diagnostics, finding.severity ≠ .error) ∧
    (report.ok = true → ∃ run, simulated.session.ledger = run :: session.ledger ∧
      report.runId? = some run.id ∧
      (report.diagnostics = [] ↔ run.equipment.isSome = true) ∧
      (run.equipment = none → ∃ remark, report.diagnostics = [remark] ∧
        remark.severity = .info ∧ remark.id = "FSM3002")) ∧
    (report.ok = false → ∃ reason, report.rejection? = some reason ∧
      report.message = reason.message) ∧
    (∀ finding ∈ report.diagnostics, ∀ span ∈ finding.span, span.IsPlaceIn session.command) ∧
    ∀ other : Session, other.selection = session.selection → other.command = session.command →
      ∀ otherNotices otherInventory otherTimestamp,
        let otherReport := (other.simulate otherNotices otherInventory otherTimestamp).report
        otherReport.ok = report.ok ∧ otherReport.rejection? = report.rejection? ∧
        otherReport.message = report.message ∧
        (report.ok = false → otherReport = report) ∧
        (report.ok = true → ∃ remark : Diagnostic, remark.severity = .info ∧ remark.id = "FSM3002" ∧
          report = .recorded (session.ledger.length + 1)
            (if inventory.Has session.selection then [] else [remark]) ∧
          otherReport = .recorded (other.ledger.length + 1)
            (if otherInventory.Has session.selection then [] else [remark])) := by
  intro simulated report
  have told : report = .told session.selection session.command (session.ledger.length + 1) inventory :=
    session.report_simulate_eq_told notices inventory timestamp
  refine ⟨?_, Session.remark_of_ok, ?_, ?_, ?_⟩
  · rw [told]
    exact Report.ok_told_iff _ _ _ _
  · rw [told]
    exact Report.rejection_of_told
  · rw [told]
    exact Report.isPlaceIn_of_told _ _ _ _
  · intro other selection command otherNotices otherInventory otherTimestamp otherReport
    have otherTold : otherReport =
        .told session.selection session.command (other.ledger.length + 1) otherInventory := by
      rw [← selection, ← command]
      exact other.report_simulate_eq_told otherNotices otherInventory otherTimestamp
    obtain ⟨ok, reason, message, rejected, recorded⟩ := Report.told_agree session.selection
      session.command (session.ledger.length + 1) (other.ledger.length + 1) inventory otherInventory
    rw [← told, ← otherTold] at ok reason message rejected recorded
    refine ⟨ok, reason, message, rejected, ?_⟩
    intro accepted
    obtain ⟨first, second⟩ := recorded accepted
    exact ⟨Session.notInInventory session.selection, rfl, rfl, first, second⟩

/-- A command is simulated with the selected forklift in the inventory, and once more when the forklift
has left it. Both simulations are recorded, and only the second one comes with the remark. -/
theorem report_hangs_on_selection_and_command_as_a_forklift_leaves :
    let session : Session := ⟨"M-1", "F10R90", []⟩
    let inventory : Inventory := [⟨"A", "M-1", "2020"⟩]
    let known := session.simulate [] inventory ⟨0, 0⟩
    let unknown := known.session.simulate known.notices [] ⟨1, 0⟩
    ∃ remark : Diagnostic, remark.severity = .info ∧ remark.id = "FSM3002" ∧
      known.report = .recorded 1 [] ∧ unknown.report = .recorded 2 [remark] := by
  intro session inventory known unknown
  obtain ⟨-, -, -, -, agree⟩ :=
    report_hangs_on_selection_and_command session [] inventory ⟨0, 0⟩
  have recorded : known.report.ok = true := by decide +kernel
  have selection : known.session.selection = session.selection := by decide +kernel
  have command : known.session.command = session.command := by decide +kernel
  have earlier : known.session.ledger.length = 1 := by decide +kernel
  obtain ⟨-, -, -, -, differ⟩ := agree known.session selection command known.notices [] ⟨1, 0⟩
  obtain ⟨remark, severity, id, first, second⟩ := differ recorded
  have present : inventory.Has session.selection := by decide
  have absent : ¬ Inventory.Has [] session.selection := by decide
  rw [if_pos present] at first
  rw [if_neg absent, earlier] at second
  exact ⟨remark, severity, id, first, second⟩

end Forklift
