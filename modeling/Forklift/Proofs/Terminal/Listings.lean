import Forklift.Terminal.Listing
import Mathlib.Data.List.Forall2

/-! # What listings tell

Actions are listed one to a line, each behind its number. An accepted command stands above its actions
with the id of its run, if it has one. The listing of a ledger has a block for each of its runs, the
newest first, with the id, the command and the actions of the run.
-/

namespace Forklift.Terminal

/-- Whether a line shows a text in some colour. -/
def Shows (line text : String) : Prop :=
  ∃ number : Nat, line = s!"\x1b[{number}m{text}\x1b[0m"

theorem shows_paint (colour : Colour) (text : String) : Shows (colour.paint text) text :=
  ⟨colour.number, rfl⟩

/-- The tally shows how many of the submitted commands were recorded. -/
theorem shows_tallyLine (recorded submitted : Nat) :
    Shows (tallyLine recorded submitted) s!"{recorded} of {submitted} command(s) recorded" :=
  shows_paint _ _

/-! ## Actions -/

/-- Whether a line lists an action under a number: behind blanks come the number, the arrow and the
description. -/
def ListsAction (number : Nat) (action : Action) (line : String) : Prop :=
  ∃ (width : Nat) (blanks : String), blanks.toList = List.replicate width ' ' ∧
    line = s!"{blanks}{number}. {action.glyph.symbol} {action.description}"

/-- Whether lines list actions, in their order and numbered from 1. -/
def ListsActions (actions : List Action) (lines : List String) : Prop :=
  List.Forall₂ (fun (action, number) line => ListsAction number action line) (actions.zipIdx 1) lines

theorem listsAction_ordinal (number : Nat) (action : Action) :
    ListsAction number action s!"  {ordinal number}. {action.display}" := by
  unfold ordinal
  split
  · refine ⟨3, "  " ++ " ", rfl, ?_⟩
    simp only [Action.display, toString, String.append_assoc]
  · refine ⟨2, "  ", rfl, ?_⟩
    simp only [Action.display, toString, String.append_assoc]

/-- Actions are listed under their places. -/
theorem listsActions_actionLines (actions : List Action) :
    ListsActions actions (actionLines actions) := by
  rw [ListsActions, actionLines, List.mapIdx_eq_zipIdx_map, List.zipIdx_succ,
    List.forall₂_map_left_iff, List.forall₂_map_right_iff, List.forall₂_same]
  rintro ⟨action, i⟩ -
  exact listsAction_ordinal (i + 1) action

/-- The heading of an accepted command shows its text, with the id of its run if it has one, and ends in
the number of its actions. -/
theorem acceptedLines_eq (runId? : Option Nat) (command : String) (actions : List Action) :
    let size := Colour.cyan.paint (count actions.length "action")
    ∃ shown, Shows shown ((runId?.map fun id => s!"#{id} {command}").getD command) ∧
      acceptedLines runId? command actions = s!"{shown} {size}" :: actionLines actions := by
  cases runId? with
  | none => exact ⟨_, shows_paint .green _, rfl⟩
  | some id => exact ⟨_, shows_paint .green _, rfl⟩

/-! ## Ledgers -/

/-- Whether lines tell of a run: its id on the first line, its command on the second one, and then its
actions. -/
def TellsRun (id : Nat) (command : String) (actions : List Action) (lines : List String) : Prop :=
  ∃ (about : String) (listed : List String),
    lines = s!"#{id} {about}" :: s!"  command: {command}" :: listed ∧
    ListsActions actions listed

/-- Whether lines tell of runs in their order, or that there is none. -/
def TellsLedger (runs : List (Nat × String × List Action)) (lines : List String) : Prop :=
  (runs = [] → lines = ["(no simulations recorded)"]) ∧
  (runs ≠ [] → ∃ blocks : List (List String), lines = blocks.flatten ∧
    List.Forall₂ (fun (id, command, actions) block => TellsRun id command actions block) runs blocks)

theorem tellsRun_runLines (run : Run) : TellsRun run.id run.command run.actions (runLines run) := by
  let moment := Colour.cyan.paint { run.timestamp with nanoseconds := 0 }.text
  let size := count run.actions.length "action"
  refine ⟨s!"{moment} {run.label} {size}", actionLines run.actions, ?_,
    listsActions_actionLines run.actions⟩
  simp only [runLines, moment, size, toString, String.append_assoc, List.cons_append,
    List.nil_append]

/-- The listing of a ledger tells of its runs. -/
theorem tellsLedger_ledgerLines (ledger : Ledger) :
    TellsLedger (ledger.map Run.content) (ledgerLines ledger) := by
  cases ledger with
  | nil => exact ⟨fun _ => rfl, fun some_run => absurd rfl some_run⟩
  | cons run earlier =>
    refine ⟨nofun, fun _ => ⟨(run :: earlier).map runLines, ?_, ?_⟩⟩
    · exact List.flatMap_def
    · rw [List.forall₂_map_left_iff, List.forall₂_map_right_iff, List.forall₂_same]
      exact fun run _ => tellsRun_runLines run

end Forklift.Terminal
