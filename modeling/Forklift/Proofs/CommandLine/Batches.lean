import Forklift.Proofs.CommandLine.Documents
import Forklift.Proofs.Session.Simulations
import Forklift.Proofs.Terminal.Listings

/-! # Batches and checks

A batch enters its commands in one session, where each finds what the others have left. A check
interprets one command alone. Still they agree on every command, and checks alone foretell which
commands a batch records, under which ids, what is printed of them, and how the program ends.
-/

namespace Forklift

/-- The items that commands come to under a selection: there are three ways. -/
inductive BatchItem.Arises (selection : String) : BatchItem → Prop
  | unselected {command : String} (unselected : selection = "") :
    Arises selection ⟨command, .rejected .selectionMissing [Session.selectionMissing], []⟩
  | rejected {command : String} {reason : Rejection} {diagnostics : List Diagnostic}
    (selected : selection ≠ "") (meaning : interpret command = .rejected reason diagnostics) :
    Arises selection ⟨command, .rejected reason diagnostics, []⟩
  | recorded {command : String} {actions : List Action} {diagnostics : List Diagnostic}
    {runId : Nat} {remarks : List Diagnostic} (selected : selection ≠ "")
    (meaning : interpret command = .accepted actions diagnostics) :
    Arises selection ⟨command, .recorded runId remarks, actions⟩

theorem BatchItem.Arises.ok_iff {selection : String} {item : BatchItem}
    (arises : item.Arises selection) :
    item.report.ok = true ↔ selection ≠ "" ∧ (interpret item.command).ok = true := by
  cases arises with
  | unselected unselected => simp [Report.ok, unselected]
  | rejected selected meaning => simp [Report.ok, Interpretation.ok, meaning]
  | recorded selected meaning => simp [Report.ok, Interpretation.ok, selected, meaning]

/-- What the runs of accepted commands tell: numbered from a number on, and newest first. -/
def Ledger.contentOf (first : Nat) (commands : List String) : List (Nat × String × List Action) :=
  ((commands.zipIdx first).map fun (command, id) =>
    (id, command, (interpret command).actions)).reverse

theorem Ledger.contentOf_cons (first : Nat) (command : String) (rest : List String) :
    contentOf first (command :: rest) =
      contentOf (first + 1) rest ++ [(first, command, (interpret command).actions)] := by
  rw [contentOf, List.zipIdx_cons, List.map_cons, List.reverse_cons, contentOf]

/-- Runs of accepted commands did what their commands ask for. -/
theorem Ledger.actions_of_content {ledger : Ledger} {first : Nat} {commands : List String}
    (content : ledger.map Run.content = contentOf first commands) :
    ∀ run ∈ ledger, run.actions = (interpret run.command).actions := by
  intro run member
  have told : run.content ∈ contentOf first commands := by
    rw [← content]
    exact List.mem_map_of_mem member
  rw [contentOf, List.mem_reverse, List.mem_map] at told
  obtain ⟨⟨command, id⟩, -, told⟩ := told
  simp only [Run.content, Prod.mk.injEq] at told
  obtain ⟨-, rfl, told⟩ := told
  exact told.symm

theorem Ledger.length_contentOf (first : Nat) (commands : List String) :
    (contentOf first commands).length = commands.length := by
  rw [contentOf, List.length_reverse, List.length_map, List.length_zipIdx]

namespace Session

/-- A command that is entered comes to an item. It adds a run if it is recorded, and the selection
stays. -/
theorem enter_cases (session : Session) (inventory : Inventory) (command : String)
    (timestamp : Timestamp) :
    ∃ item after, session.enter inventory command timestamp = (item, after) ∧
      item.command = command ∧ item.Arises session.selection ∧
      after.selection = session.selection ∧
      (item.report.ok = false ∧ after.ledger = session.ledger ∨
        item.report.ok = true ∧ ∃ run : Run, after.ledger = run :: session.ledger ∧
          run.content = (session.ledger.length + 1, command, (interpret command).actions)) := by
  obtain unselected | selected := Decidable.em (session.selection = "")
  · have entered : (session.setCommand command).selection = "" := unselected
    have ran := run_of_unselected entered inventory timestamp
    exact ⟨_, _, enter_of_run ran, rfl, .unselected unselected, rfl, .inl ⟨rfl, rfl⟩⟩
  · have entered : (session.setCommand command).selection ≠ "" := selected
    cases meaning : interpret command with
    | rejected reason diagnostics =>
      have ran := run_of_rejected entered meaning inventory timestamp
      exact ⟨_, _, enter_of_run ran, rfl, .rejected selected meaning, rfl, .inl ⟨rfl, rfl⟩⟩
    | accepted actions =>
      have ran := run_of_accepted entered meaning inventory timestamp
      exact ⟨_, _, enter_of_run ran, rfl, .recorded selected meaning, rfl,
        .inr ⟨rfl, _, rfl, rfl⟩⟩

/-- Commands that are entered come to one item each, and to the runs of those that are accepted. -/
theorem batch_cases (session : Session) (inventory : Inventory)
    (entries : List (String × Timestamp)) :
    ∃ items final, session.batch inventory entries = (items, final) ∧
      items.map BatchItem.command = entries.map Prod.fst ∧
      (∀ item ∈ items, item.Arises session.selection) ∧
      final.ledger.map Run.content =
        Ledger.contentOf (session.ledger.length + 1) ((entries.map Prod.fst).filter fun command =>
          session.selection ≠ "" ∧ (interpret command).ok = true) ++
        session.ledger.map Run.content := by
  induction entries generalizing session with
  | nil => exact ⟨[], session, rfl, rfl, nofun, rfl⟩
  | cons entry rest ih =>
    obtain ⟨command, timestamp⟩ := entry
    obtain ⟨item, after, entered, named, arises, kept, left⟩ :=
      session.enter_cases inventory command timestamp
    obtain ⟨items, final, batched, commands, arise, content⟩ := ih after
    rw [kept] at arise content
    refine ⟨item :: items, final, ?_, ?_, List.forall_mem_cons.mpr ⟨arises, arise⟩, ?_⟩
    · simp only [batch, entered, batched]
    · rw [List.map_cons, List.map_cons, named, commands]
    have accepted := arises.ok_iff
    rw [named] at accepted
    rw [content, List.map_cons]
    obtain ⟨rejected, same⟩ | ⟨recorded, run, added, told⟩ := left
    · have skipped : ¬(session.selection ≠ "" ∧ (interpret command).ok = true) := by
        rw [← accepted, rejected]
        exact Bool.false_ne_true
      rw [List.filter_cons_of_neg (by simpa using skipped), same]
    · have taken := accepted.mp recorded
      rw [List.filter_cons_of_pos (by simpa using taken), Ledger.contentOf_cons, added,
        List.length_cons, List.map_cons, told, List.append_assoc, List.singleton_append]

end Session

namespace CommandLine

open Terminal (Output Shows ListsActions TellsLedger batchItemOutput noticeColour)

/-- Whether an item tells of its command what a check tells. An accepted command is shown with the id of
its run, and with the same number of actions and above the same lines of actions as in the check. A
rejected one is printed in the same lines, behind its notice. -/
structure AgreesWithCheck (item : BatchItem) : Prop where
  actions : item.actions = (interpret item.command).actions
  message : item.report.ok = false →
    (interpret item.command).rejection?.map Rejection.message = some item.report.message
  diagnostics : item.report.ok = false →
    (interpret item.command).diagnostics = item.report.diagnostics
  written : (check .json item.command).output = document (.object [
    ("ok", .bool item.report.ok),
    ("message", if item.report.ok then .null else .string item.report.message),
    ("actions", .array (item.actions.map Action.toJson)),
    ("diagnostics", .array (if item.report.ok then []
      else item.report.diagnostics.map Diagnostic.toJson))])
  listed : item.report.ok = true →
    ∃ (id : Nat) (heading checkHeading size : String) (lines : List String),
    item.report.runId? = some id ∧
    Shows heading s!"#{id} {item.command}" ∧ Shows checkHeading item.command ∧
    Shows size (Terminal.count item.actions.length "action") ∧
    (batchItemOutput item).results = s!"{heading} {size}" :: lines ∧
    (check .pretty item.command).output.results = s!"{checkHeading} {size}" :: lines ∧
    ListsActions item.actions lines
  refused : item.report.ok = false →
    batchItemOutput item =
      .ofRemarks [(noticeColour .error).paint item.report.message] ++
        (check .pretty item.command).output

/-- Under a selection every item agrees with a check of its command. -/
theorem agreesWithCheck_of_arises {selection : String} {item : BatchItem}
    (arises : item.Arises selection) (selected : selection ≠ "") : AgreesWithCheck item := by
  cases arises with
  | unselected unselected => exact absurd unselected selected
  | rejected _ meaning =>
    constructor
    case listed => exact nofun
    all_goals simp only [check, meaning]
    case actions | written => rfl
    case message | diagnostics | refused => exact fun _ => rfl
  | @recorded command actions _ runId _ _ meaning =>
    obtain rfl := diagnostics_of_accepted meaning
    constructor
    case message | diagnostics | refused => exact nofun
    all_goals simp only [check, meaning]
    case actions | written => rfl
    case listed =>
      intro _
      obtain ⟨heading, shown, lines⟩ := Terminal.acceptedLines_eq (some runId) command actions
      obtain ⟨checkHeading, checkShown, checkLines⟩ := Terminal.acceptedLines_eq none command actions
      -- Behind the lines of an accepted command nothing else is a result.
      exact ⟨runId, heading, checkHeading, _, _, rfl, shown, checkShown, Terminal.shows_paint .cyan _,
        (List.append_nil _).trans lines, (List.append_nil _).trans checkLines,
        Terminal.listsActions_actionLines actions⟩

/-- No result is printed of a command that is rejected. -/
theorem results_of_rejected {item : BatchItem} (rejected : item.report.ok = false) :
    (batchItemOutput item).results = [] := by
  obtain ⟨command, _ | ⟨reason, diagnostics⟩, actions⟩ := item
  · cases rejected
  · rfl

/-- A notice in plain text tells on which channel it is sent. -/
theorem noticeLine_notice (report : Report) :
    noticeLine report.notice = (if report.ok then "info: " else "error: ") ++ report.message := by
  cases report <;> rfl

/-- A check ends well where its command is accepted. -/
theorem status_check_eq_zero {format : OutputFormat} {command : String} :
    (check format command).ending.status = 0 ↔ (interpret command).ok = true := by
  change (Ending.ofBool (interpret command).ok).status = 0 ↔ _
  cases (interpret command).ok <;> decide

/-- Commands come to one item each, and to the runs of those that are accepted. -/
theorem simulateAll_cases (clock : Nat → Timestamp) (inventory : Inventory)
    (equipment : Option String) (commands : List String) :
    ∃ items session, simulateAll clock inventory equipment commands = (items, session) ∧
      items.map BatchItem.command = commands ∧
      (∀ item ∈ items, item.Arises (equipment.getD "")) ∧
      session.ledger.map Run.content = Ledger.contentOf 1 (commands.filter fun command =>
        equipment.getD "" ≠ "" ∧ (interpret command).ok = true) := by
  have entered :
      (commands.mapIdx fun i command => (command, clock i)).map Prod.fst = commands := by
    rw [List.mapIdx_eq_zipIdx_map, List.map_map]
    exact List.zipIdx_map_fst 0 commands
  have selection : (sessionFor equipment).selection = equipment.getD "" := by
    cases equipment <;> rfl
  have ledger : (sessionFor equipment).ledger = [] := by
    cases equipment <;> rfl
  obtain ⟨items, session, batched, named, arise, content⟩ :=
    (sessionFor equipment).batch_cases inventory
      (commands.mapIdx fun i command => (command, clock i))
  rw [entered] at named content
  rw [selection] at arise content
  rw [ledger, List.map_nil, List.append_nil] at content
  exact ⟨items, session, batched, named, arise, content⟩

section Counts

variable {selection : String} {items : List BatchItem} {ledger : Ledger}
  (arise : ∀ item ∈ items, item.Arises selection)
  (content : ledger.map Run.content =
    Ledger.contentOf 1 ((items.map BatchItem.command).filter fun command =>
      selection ≠ "" ∧ (interpret command).ok = true))

include arise content

/-- There are as many runs as accepted items. -/
theorem length_ledger : ledger.length = items.countP (·.report.ok) := by
  have told := congrArg List.length content
  rw [List.length_map, Ledger.length_contentOf, ← List.countP_eq_length_filter,
    List.countP_map] at told
  rw [told]
  apply List.countP_congr
  intro item member
  rw [Function.comp_apply, decide_eq_true_iff]
  exact (arise item member).ok_iff.symm

/-- All items are accepted exactly if there are as many runs as commands. -/
theorem all_ok_eq :
    items.all (·.report.ok) =
      decide (ledger.length = (items.map BatchItem.command).length) := by
  rw [Bool.eq_iff_iff, decide_eq_true_iff, length_ledger arise content, List.length_map,
    List.countP_eq_length, List.all_eq_true]

end Counts

/-- A batch and checks of its commands tell the same. An inventory that cannot be loaded is all that
is told. Else each command comes to one item, with a notice of its own. It is accepted if a model is
given that is not empty and the check accepts it, and under such a model all that the item tells
agrees with the check. The ledger holds the accepted commands, the last one first, with the actions
that checks give and with ids down to 1. What is printed tells of these runs, in lines or in a document
that is read back. The tally counts them among the commands, and the program ends well if each command
has one. -/
theorem simulate_agrees_with_check (format : OutputFormat) (files : FileView)
    (clock : Nat → Timestamp) (path equipment : Option String) (commands : List String) :
    let finished := (Task.simulate path equipment commands).perform format files clock
    let accepted (command : String) : Bool := equipment.getD "" ≠ "" ∧
      ((Task.check command).perform format files clock).ending.status = 0
    (∀ failure, inventoryOf files path = .error failure →
      finished.ending.status = 1 ∧
      finished.output = match format with
        | .pretty => .ofRemarks [s!"error: {failure.message}"]
        | .json => document (.object [
          ("success", .bool false),
          ("error", .string "command_failed"),
          ("message", .string failure.message)])) ∧
    ∀ inventory, inventoryOf files path = .ok inventory →
      ∃ items session, simulateAll clock inventory equipment commands = (items, session) ∧
        items.map BatchItem.command = commands ∧
        (∀ item ∈ items, item.report.ok = accepted item.command ∧
          (equipment.getD "" ≠ "" → AgreesWithCheck item) ∧
          (batchItemOutput item).remarks.head? =
            some ((noticeColour item.report.notice.kind).paint item.report.notice.message) ∧
          (item.report.ok = false → (batchItemOutput item).results = [])) ∧
        session.ledger.map Run.content = Ledger.contentOf 1 (commands.filter accepted) ∧
        session.ledger.length = items.countP (·.report.ok) ∧
        (finished.ending.status = 0 ↔ ∀ item ∈ items, item.report.ok = true) ∧
        finished.ending.status = (if session.ledger.length = commands.length then 0 else 1) ∧
        match format with
        | .pretty =>
          finished.output.results = items.flatMap (batchItemOutput · |>.results) ++
            Terminal.ledgerLines session.ledger ∧
          finished.output.remarks = items.flatMap (batchItemOutput · |>.remarks) ++
            [Terminal.tallyLine session.ledger.length commands.length] ∧
          TellsLedger (Ledger.contentOf 1 (commands.filter accepted))
            (Terminal.ledgerLines session.ledger) ∧
          Shows (Terminal.tallyLine session.ledger.length commands.length)
            s!"{session.ledger.length} of {commands.length} command(s) recorded"
        | .json =>
          finished.output.results = (document (batchJson
            (session.ledger.length = commands.length) items session.ledger)).results ∧
          (∃ text, finished.output.results = [text] ∧
            TellsBatch (session.ledger.length = commands.length) items
              (Ledger.contentOf 1 (commands.filter accepted)) text) ∧
          finished.output.remarks = items.map fun item =>
            (if item.report.ok then "info: " else "error: ") ++ item.report.message := by
  intro finished accepted
  have accepted_eq : accepted =
      fun command => decide (equipment.getD "" ≠ "" ∧ (interpret command).ok = true) := by
    funext command
    exact decide_eq_decide.mpr (and_congr_right fun _ => status_check_eq_zero)
  constructor
  · intro failure failed
    have ended : finished = failure.finished format := by
      simp only [finished, Task.perform, simulate, failed]
    rw [ended]
    exact ⟨rfl, rfl⟩
  · intro inventory loaded
    obtain ⟨items, session, batched, rfl, arise, content⟩ :=
      simulateAll_cases clock inventory equipment commands
    have ended : finished = ⟨.ofBool (items.all (·.report.ok)),
        batchOutput format (items.all (·.report.ok)) items session.ledger⟩ := by
      simp only [finished, Task.perform, simulate, loaded, batched]
    have ok (item) (member : item ∈ items) : item.report.ok = accepted item.command := by
      rw [accepted_eq, Bool.eq_iff_iff, decide_eq_true_iff]
      exact (arise item member).ok_iff
    have count := length_ledger arise content
    have all := all_ok_eq arise content
    have meant := Ledger.actions_of_content content
    rw [← accepted_eq] at content
    rw [ended]
    refine ⟨items, session, batched, rfl, ?_, content, count, ?_, ?_, ?_⟩
    · intro item member
      exact ⟨ok item member, agreesWithCheck_of_arises (arise item member), rfl,
        results_of_rejected⟩
    · rw [Ending.status_ofBool, ← List.all_eq_true]
      cases items.all (·.report.ok) <;> decide
    · rw [Ending.status_ofBool, all]
      simp only [decide_eq_true_eq]
    · cases format with
      | pretty =>
        rw [← content]
        refine ⟨?_, ?_, Terminal.tellsLedger_ledgerLines session.ledger,
          Terminal.shows_tallyLine _ _⟩
        all_goals simp [batchOutput, Output.ofResults, Output.ofRemarks, List.flatMap_map]
      | json =>
        obtain ⟨text, printed, told⟩ := tellsBatch_document
          (session.ledger.length = (items.map BatchItem.command).length) items meant
        have results : (batchOutput .json (items.all (·.report.ok)) items session.ledger).results =
            (document (batchJson (session.ledger.length = (items.map BatchItem.command).length)
              items session.ledger)).results := by
          rw [all]
          rfl
        refine ⟨results, ⟨text, results.trans printed, ?_⟩, ?_⟩
        · rw [← content]
          exact told
        · simp only [batchOutput, document, Output.append_remarks, Output.ofRemarks,
            Output.ofResults, List.append_nil, noticeLine_notice]

/-- Where no path can be followed, an inventory that is named ends the program. Without one, a command
between two others is rejected for its turn, and the others are recorded: the document tells of their
runs, and the tally counts them. -/
theorem simulate_agrees_with_check_around_a_rejection :
    let files : FileView := ⟨fun _ => .error "gone", fun _ => .error "gone"⟩
    let clock (i : Nat) : Timestamp := ⟨i, 0⟩
    let commands := ["F10", "R45", "L90B2"]
    let ended format path := (Task.simulate path (some "M-1") commands).perform format files clock
    let runs := [(2, "L90B2", (interpret "L90B2").actions), (1, "F10", (interpret "F10").actions)]
    (ended .json (some "a.csv")).ending.status = 1 ∧ (ended .json none).ending.status = 1 ∧
      (simulateAll clock [] (some "M-1") commands).2.ledger.map Run.content = runs ∧
      (∃ items text, (ended .json none).output.results = [text] ∧ TellsBatch false items runs text) ∧
      ∃ tally, (ended .pretty none).output.remarks.getLast? = some tally ∧
        Shows tally "2 of 3 command(s) recorded" := by
  intro files clock commands ended runs
  have unloaded : inventoryOf files (some "a.csv") = .error
      ⟨"failed to load inventory 'a.csv'", .retriesExhausted 1 (.io "a.csv" "gone")⟩ := rfl
  have loaded : inventoryOf files none = .ok [] := rfl
  obtain ⟨failed, -⟩ :=
    (simulate_agrees_with_check .json files clock _ (some "M-1") commands).1 _ unloaded
  obtain ⟨items, session, batched, -, -, content, -, -, status, -, ⟨text, printed, told⟩, -⟩ :=
    (simulate_agrees_with_check .json files clock _ (some "M-1") commands).2 _ loaded
  obtain ⟨_, alike, batchedToo, -, -, -, -, -, -, -, remarks, -, shown⟩ :=
    (simulate_agrees_with_check .pretty files clock _ (some "M-1") commands).2 _ loaded
  obtain ⟨-, rfl⟩ := Prod.mk.inj (batchedToo.symm.trans batched)
  have runs_eq : Ledger.contentOf 1 (commands.filter fun command => (some "M-1").getD "" ≠ "" ∧
      ((Task.check command).perform .json files clock).ending.status = 0) = runs := by
    decide +kernel
  rw [runs_eq] at content told
  have recorded : alike.ledger.length = 2 := by
    rw [← List.length_map Run.content, content]
    rfl
  have counted : s!"{alike.ledger.length} of {commands.length} command(s) recorded" =
      "2 of 3 command(s) recorded" := by
    rw [recorded]
    decide +kernel
  rw [counted] at shown
  rw [recorded] at status told
  refine ⟨failed, status, ?_, ⟨items, text, printed, told⟩, _, ?_, shown⟩
  · rw [batched]
    exact content
  · rw [remarks]
    exact List.getLast?_concat

end CommandLine

end Forklift
