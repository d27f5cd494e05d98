import Forklift.Proofs.Session.Simulations
import Forklift.Session.History

/-! # What a session remembers

A chronicle lists what each simulation of a session was asked for with. It says all that the session
comes to: which simulations failed and why, what was told of them, and the ledger, which holds the
others, numbered from 1, newest first. No simulation that failed leaves a trace in the session.
-/

namespace Forklift

/-- What a simulation was asked for with: the selection and the command of that time, and the
inventory and the moment that it was given. -/
structure Attempt where
  selection : String
  command : String
  inventory : Inventory
  timestamp : Timestamp
deriving DecidableEq

namespace Attempt

/-- Why an attempt fails. A missing selection comes before anything about the command. -/
def rejection? (attempt : Attempt) : Option Rejection :=
  if attempt.selection = "" then some .selectionMissing
  else (interpret attempt.command).rejection?

/-- What is told of an attempt. -/
def notice (attempt : Attempt) : Notice :=
  match attempt.rejection? with
  | some reason => ⟨.error, reason.message⟩
  | none => ⟨.success, Report.successMessage⟩

/-- The run that an attempt leaves under an id if it does not fail. -/
def run (attempt : Attempt) (id : Nat) : Run where
  id := id
  timestamp := attempt.timestamp
  equipment := attempt.inventory.find? fun equipment => equipment.modelNumber = attempt.selection
  command := attempt.command
  actions := (interpret attempt.command).actions

/-- The runs of attempts, oldest first, that did not fail: numbered from 1, and newest first. -/
def ledger (attempts : List Attempt) : Ledger :=
  ((attempts.filter fun attempt => attempt.rejection?.isNone).mapIdx
    fun n attempt => attempt.run (n + 1)).reverse

theorem ledger_append_of_rejected {attempt : Attempt} {reason : Rejection}
    (rejected : attempt.rejection? = some reason) (attempts : List Attempt) :
    ledger (attempts ++ [attempt]) = ledger attempts := by
  simp only [ledger, List.filter_append, List.filter_cons, rejected, Option.isNone_some,
    Bool.false_eq_true, ↓reduceIte, List.filter_nil, List.append_nil]

theorem ledger_append_of_recorded {attempt : Attempt} (recorded : attempt.rejection? = none)
    (attempts : List Attempt) :
    ledger (attempts ++ [attempt]) =
      attempt.run ((ledger attempts).length + 1) :: ledger attempts := by
  simp only [ledger, List.filter_append, List.filter_cons, recorded, Option.isNone_none,
    ↓reduceIte, List.filter_nil, List.mapIdx_concat, List.reverse_append, List.reverse_singleton,
    List.singleton_append, List.length_reverse, List.length_mapIdx]

end Attempt

/-- What has been selected and entered last, and what the simulations were asked for with. -/
structure Chronicle where
  selection : String
  command : String
  /-- Oldest first. -/
  attempts : List Attempt
deriving DecidableEq

namespace Chronicle

def start : Chronicle :=
  ⟨"", "", []⟩

/-- The attempt that a simulation is. -/
def attempt (chronicle : Chronicle) (inventory : Inventory) (timestamp : Timestamp) : Attempt :=
  ⟨chronicle.selection, chronicle.command, inventory, timestamp⟩

def step (chronicle : Chronicle) : Operation → Chronicle
  | .select modelNumber => { chronicle with selection := modelNumber }
  | .clearSelection => { chronicle with selection := "" }
  | .setCommand text => { chronicle with command := text }
  | .simulate inventory timestamp =>
    { chronicle with attempts := chronicle.attempts ++ [chronicle.attempt inventory timestamp] }

/-- The chronicle of operations, done in their order. -/
def ofOperations (operations : List Operation) : Chronicle :=
  operations.foldl step start

end Chronicle

/-- A simulation that fails says why and leaves the session alone; any other one records its run
under the next id and changes nothing else. -/
theorem Session.run_cases (session : Session) (inventory : Inventory) (timestamp : Timestamp) :
    let attempt : Attempt := ⟨session.selection, session.command, inventory, timestamp⟩
    (∃ reason diagnostics, attempt.rejection? = some reason ∧
      session.run inventory timestamp = (.rejected reason diagnostics, session)) ∨
    (∃ diagnostics, attempt.rejection? = none ∧
      session.run inventory timestamp = (.recorded (session.ledger.length + 1) diagnostics,
        { session with ledger := attempt.run (session.ledger.length + 1) :: session.ledger })) := by
  intro attempt
  by_cases missing : session.selection = ""
  · left
    refine ⟨.selectionMissing, [selectionMissing], ?_, run_of_unselected missing _ _⟩
    simp only [Attempt.rejection?, attempt, missing, ↓reduceIte]
  · cases meaning : interpret session.command with
    | rejected reason diagnostics =>
      left
      refine ⟨reason, diagnostics, ?_, run_of_rejected missing meaning _ _⟩
      simp only [Attempt.rejection?, attempt, missing, ↓reduceIte, meaning,
        Interpretation.rejection?]
    | accepted actions =>
      right
      have left : attempt.run (session.ledger.length + 1) = ⟨session.ledger.length + 1, timestamp,
          inventory.resolve? session.selection, session.command, actions⟩ := by
        simp only [Attempt.run, attempt, meaning]
        rfl
      have ran := run_of_accepted missing meaning inventory timestamp
      rw [← left] at ran
      refine ⟨_, ?_, ran⟩
      simp only [Attempt.rejection?, attempt, missing, ↓reduceIte, meaning,
        Interpretation.rejection?]

namespace History

/-- Whether a history is what its chronicle says: the session holds what was selected and entered
last and the runs of the attempts, and the reports and the notices are those of the attempts. -/
structure Follows (history : History) (chronicle : Chronicle) : Prop where
  selection : history.session.selection = chronicle.selection
  command : history.session.command = chronicle.command
  ledger : history.session.ledger = Attempt.ledger chronicle.attempts
  reasons : history.reports.map Report.rejection? = chronicle.attempts.map Attempt.rejection?
  notices : history.notices = chronicle.attempts.map Attempt.notice

theorem follows_start : start.Follows .start where
  selection := rfl
  command := rfl
  ledger := rfl
  reasons := rfl
  notices := rfl

theorem Follows.simulate {history : History} {chronicle : Chronicle}
    (follows : history.Follows chronicle) (inventory : Inventory) (timestamp : Timestamp) :
    (history.step (.simulate inventory timestamp)).Follows
      (chronicle.step (.simulate inventory timestamp)) := by
  have same : (⟨history.session.selection, history.session.command, inventory, timestamp⟩ : Attempt) =
      chronicle.attempt inventory timestamp := by
    rw [follows.selection, follows.command, Chronicle.attempt]
  rw [step_simulate]
  rcases history.session.run_cases inventory timestamp with
    ⟨reason, diagnostics, rejected, ran⟩ | ⟨diagnostics, recorded, ran⟩
  · rw [same] at rejected
    rw [ran]
    refine ⟨follows.selection, follows.command, ?_, ?_, ?_⟩
    · exact follows.ledger.trans (Attempt.ledger_append_of_rejected rejected _).symm
    · simp only [Chronicle.step, List.map_append, follows.reasons, List.map_cons, List.map_nil,
        rejected, Report.rejection?]
    · simp only [Chronicle.step, List.map_append, follows.notices, List.map_cons, List.map_nil,
        Attempt.notice, rejected, Report.notice, Report.ok, Report.message, Bool.false_eq_true,
        ↓reduceIte]
  · rw [same] at recorded
    rw [ran, same]
    refine ⟨follows.selection, follows.command, ?_, ?_, ?_⟩
    · rw [follows.ledger]
      exact (Attempt.ledger_append_of_recorded recorded _).symm
    · simp only [Chronicle.step, List.map_append, follows.reasons, List.map_cons, List.map_nil,
        recorded, Report.rejection?]
    · simp only [Chronicle.step, List.map_append, follows.notices, List.map_cons, List.map_nil,
        Attempt.notice, recorded, Report.notice, Report.ok, Report.message, ↓reduceIte]

theorem Follows.step {history : History} {chronicle : Chronicle}
    (follows : history.Follows chronicle) (operation : Operation) :
    (history.step operation).Follows (chronicle.step operation) := by
  cases operation with
  | select modelNumber =>
    exact ⟨rfl, follows.command, follows.ledger, follows.reasons, follows.notices⟩
  | clearSelection =>
    exact ⟨rfl, follows.command, follows.ledger, follows.reasons, follows.notices⟩
  | setCommand text =>
    exact ⟨follows.selection, rfl, follows.ledger, follows.reasons, follows.notices⟩
  | simulate inventory timestamp => exact follows.simulate inventory timestamp

theorem Follows.foldl_step {history : History} {chronicle : Chronicle}
    (follows : history.Follows chronicle) (operations : List Operation) :
    (operations.foldl History.step history).Follows (operations.foldl Chronicle.step chronicle) := by
  induction operations generalizing history chronicle with
  | nil => exact follows
  | cons operation rest ih => exact ih (follows.step operation)

theorem follows_ofOperations (operations : List Operation) :
    (ofOperations operations).Follows (.ofOperations operations) :=
  follows_start.foldl_step operations

/-- Every history is what its chronicle says, and each further simulation takes part as one attempt.
A failure, of which a missing selection is the first, leaves the session as it was and is told as
an error. Any other simulation puts one run in front of the ledger and is told as a success. -/
theorem simulate_after_operations (operations : List Operation) (inventory : Inventory)
    (timestamp : Timestamp) :
    let before := ofOperations operations
    let after := ofOperations (operations ++ [.simulate inventory timestamp])
    let reason? := if before.session.selection = "" then some .selectionMissing
      else (interpret before.session.command).rejection?
    before.Follows (.ofOperations operations) ∧
    ∃ report, after.reports = before.reports ++ [report] ∧ report.rejection? = reason? ∧
      (∀ reason, reason? = some reason →
        after.session = before.session ∧ report.runId? = none ∧
        after.notices = before.notices ++ [⟨.error, reason.message⟩]) ∧
      (reason? = none → ∃ run : Run,
        after.session = { before.session with ledger := run :: before.session.ledger } ∧
        report.runId? = some run.id ∧ run.id = after.session.ledger.length ∧
        run.timestamp = timestamp ∧ run.command = before.session.command ∧
        run.actions = (interpret before.session.command).actions ∧
        run.equipment = inventory.find? (fun equipment =>
          equipment.modelNumber = before.session.selection) ∧
        after.notices = before.notices ++ [⟨.success, Report.successMessage⟩]) := by
  intro before after reason?
  have follows : before.Follows (.ofOperations operations) := follows_ofOperations operations
  have stepped : after = before.step (.simulate inventory timestamp) := by
    simp only [after, before, ofOperations_append, List.foldl_cons, List.foldl_nil]
  refine ⟨follows, (before.session.run inventory timestamp).1, ?_⟩
  rw [stepped, step_simulate]
  refine ⟨rfl, ?_⟩
  rcases before.session.run_cases inventory timestamp with
    ⟨reason, diagnostics, rejected, ran⟩ | ⟨diagnostics, recorded, ran⟩
  · change reason? = some reason at rejected
    rw [ran, rejected]
    refine ⟨rfl, ?_, nofun⟩
    intro other same
    cases same
    exact ⟨rfl, rfl, rfl⟩
  · change reason? = none at recorded
    rw [ran, recorded]
    exact ⟨rfl, nofun, fun _ => ⟨_, rfl, rfl, rfl, rfl, rfl, rfl, rfl, rfl⟩⟩

end History

end Forklift
