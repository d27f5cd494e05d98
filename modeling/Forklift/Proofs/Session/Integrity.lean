import Mathlib.Data.List.Induction
import Forklift.Proofs.Session.Simulations
import Forklift.Session.Workplace

/-! # What a ledger tells

Whatever is done in a session and its copies, the ledger numbers its runs from 1 and each run did what
its command asks for. So the commands tell the ledger: entered anew, they are all accepted and leave the
same runs. A ledger only grows at its front, and what failed in between has left no trace in it.
-/

namespace Forklift

namespace Ledger

/-- Whether each run has the number of its place and did what its command asks for. -/
def Sound : Ledger → Prop
  | [] => True
  | run :: earlier =>
    run.id = earlier.length + 1 ∧ interpret run.command = .accepted run.actions [] ∧ Sound earlier

theorem Sound.ids {ledger : Ledger} (sound : ledger.Sound) :
    ledger.map Run.id = (List.range' 1 ledger.length).reverse := by
  induction ledger with
  | nil => rfl
  | cons run earlier ih =>
    obtain ⟨number, -, rest⟩ := sound
    rw [List.map_cons, number, ih rest, List.length_cons, List.range'_1_concat,
      List.reverse_concat, Nat.add_comm]

theorem Sound.accepted {ledger : Ledger} (sound : ledger.Sound) :
    ∀ run ∈ ledger, interpret run.command = .accepted run.actions [] := by
  induction ledger with
  | nil => exact fun _ member => absurd member List.not_mem_nil
  | cons run earlier ih =>
    obtain ⟨-, meaning, rest⟩ := sound
    exact List.forall_mem_cons.mpr ⟨meaning, ih rest⟩

end Ledger

namespace Session

/-- An operation leaves the ledger alone, or puts one run in front of it: the next one, of a command
that is accepted. -/
theorem ledger_apply (session : Session) (operation : Operation) :
    (session.apply operation).ledger = session.ledger ∨
      ∃ run : Run, (session.apply operation).ledger = run :: session.ledger ∧
        run.id = session.ledger.length + 1 ∧ interpret run.command = .accepted run.actions [] := by
  cases operation with
  | select modelNumber => exact .inl rfl
  | clearSelection => exact .inl rfl
  | setCommand text => exact .inl rfl
  | simulate inventory timestamp =>
    change (session.run inventory timestamp).2.ledger = session.ledger ∨
      ∃ run, (session.run inventory timestamp).2.ledger = run :: session.ledger ∧ _
    obtain unselected | selected := Decidable.em (session.selection = "")
    · rw [run_of_unselected unselected]
      exact .inl rfl
    · cases meaning : interpret session.command with
      | rejected reason diagnostics =>
        rw [run_of_rejected selected meaning]
        exact .inl rfl
      | accepted actions diagnostics =>
        rw [run_of_accepted selected meaning]
        rw [diagnostics_of_accepted meaning] at meaning
        exact .inr ⟨_, rfl, rfl, meaning⟩

theorem suffix_ledger_apply (session : Session) (operation : Operation) :
    session.ledger <:+ (session.apply operation).ledger := by
  obtain same | ⟨run, recorded, -⟩ := session.ledger_apply operation
  · exact ⟨[], same.symm⟩
  · exact ⟨[run], recorded.symm⟩

theorem sound_ledger_apply {session : Session} (sound : session.ledger.Sound)
    (operation : Operation) : (session.apply operation).ledger.Sound := by
  obtain same | ⟨run, recorded, number, meaning⟩ := session.ledger_apply operation
  · rw [same]
    exact sound
  · rw [recorded]
    exact ⟨number, meaning, sound⟩

theorem Reachable.apply {session : Session} (reachable : session.Reachable)
    (operation : Operation) : (session.apply operation).Reachable := by
  obtain ⟨operations, rfl⟩ := reachable
  refine ⟨operations ++ [operation], ?_⟩
  rw [History.ofOperations_append, List.foldl_cons, List.foldl_nil, History.session_step]

end Session

namespace Workplace

/-- Where a session is, a later session is whose ledger goes on from the earlier one. -/
theorem suffix_foldl_step {sessions : List Session} {place : Nat} {before : Session}
    (here : sessions[place]? = some before) (moves : List Move) :
    ∃ after, (moves.foldl step sessions)[place]? = some after ∧ before.ledger <:+ after.ledger := by
  induction moves generalizing sessions before with
  | nil => exact ⟨before, here, List.suffix_refl _⟩
  | cons move rest ih =>
    obtain same | ⟨operation, operated⟩ := getElem?_step here move
    · exact ih same
    · obtain ⟨after, there, grown⟩ := ih operated
      exact ⟨after, there, (before.suffix_ledger_apply operation).trans grown⟩

/-- A copy starts with the ledger of the session that it was made of, and goes on from it. -/
theorem suffix_foldl_step_copy {sessions : List Session} {place : Nat} {before : Session}
    (here : sessions[place]? = some before) (moves : List Move) :
    ∃ after, (moves.foldl step (step sessions (.copy place)))[sessions.length]? = some after ∧
      before.ledger <:+ after.ledger := by
  have copied : (step sessions (.copy place))[sessions.length]? = some before := by
    rw [step, here]
    exact List.getElem?_concat_length
  exact suffix_foldl_step copied moves

end Workplace

/-- The operations that select a forklift and then enter commands, each of which is simulated with an
inventory of its own and at a moment of its own. -/
def entering (selection : String) (entries : List (String × Inventory × Timestamp)) :
    List Operation :=
  .select selection :: entries.flatMap fun (command, inventory, timestamp) =>
    [.setCommand command, .simulate inventory timestamp]

namespace History

/-- Whether every simulation has been accepted, and the runs tell what those of a ledger tell. -/
structure Replays (history : History) (selection : String) (ledger : Ledger) : Prop where
  selection : history.session.selection = selection
  count : history.reports.length = ledger.length
  ok : ∀ report ∈ history.reports, report.ok = true
  content : history.session.ledger.map Run.content = ledger.map Run.content

/-- Entering the command of the next run of a sound ledger records what that run tells. -/
theorem Replays.enter {history : History} {selection : String} {earlier : Ledger} {run : Run}
    (replays : history.Replays selection earlier) (selected : selection ≠ "")
    (sound : Ledger.Sound (run :: earlier)) (inventory : Inventory) (timestamp : Timestamp) :
    ((history.step (.setCommand run.command)).step (.simulate inventory timestamp)).Replays selection
      (run :: earlier) := by
  obtain ⟨number, meaning, -⟩ := sound
  have entered : (history.session.setCommand run.command).selection ≠ "" := by
    rw [← replays.selection] at selected
    exact selected
  have ran := Session.run_of_accepted entered meaning inventory timestamp
  have recorded : (history.step (.setCommand run.command)).step (.simulate inventory timestamp) =
      ⟨((history.session.setCommand run.command).run inventory timestamp).2,
        history.reports ++ [((history.session.setCommand run.command).run inventory timestamp).1],
        history.notices ++
          [((history.session.setCommand run.command).run inventory timestamp).1.notice]⟩ :=
    (history.step (.setCommand run.command)).step_simulate inventory timestamp
  have next : history.session.ledger.length + 1 = run.id := by
    rw [number, ← List.length_map Run.content, replays.content, List.length_map]
  rw [recorded, ran]
  refine ⟨replays.selection, ?_, ?_, ?_⟩
  · rw [List.length_append, replays.count, List.length_singleton, List.length_cons]
  · intro report member
    obtain old | new := List.mem_append.mp member
    · exact replays.ok report old
    · rw [List.mem_singleton.mp new]
      rfl
  · have content : (history.session.ledger.length + 1, run.command, run.actions) = run.content := by
      rw [next]
      rfl
    exact List.cons_eq_cons.mpr ⟨content, replays.content⟩

/-- The commands of a sound ledger, entered oldest first where a forklift is selected, tell the
ledger. -/
theorem replays_entering {ledger : Ledger} (sound : ledger.Sound) {selection : String}
    (selected : selection ≠ "") {entries : List (String × Inventory × Timestamp)}
    (commands : entries.map Prod.fst = (ledger.map Run.command).reverse) :
    (ofOperations (entering selection entries)).Replays selection ledger := by
  induction ledger generalizing entries with
  | nil =>
    obtain rfl : entries = [] := List.map_eq_nil_iff.mp commands
    exact ⟨rfl, rfl, nofun, rfl⟩
  | cons run earlier ih =>
    -- The newest run is the one whose command is entered last.
    rw [List.map_cons, List.reverse_cons] at commands
    obtain ⟨front, back, rfl, first, last⟩ := List.map_eq_append_iff.mp commands
    obtain ⟨⟨command, inventory, timestamp⟩, rfl, rfl⟩ := List.map_eq_singleton_iff.mp last
    have before := ih sound.2.2 first
    have split : entering selection (front ++ [(run.command, inventory, timestamp)]) =
        entering selection front ++ [.setCommand run.command, .simulate inventory timestamp] := by
      simp [entering]
    rw [split, ofOperations_append]
    exact before.enter selected sound inventory timestamp

end History

theorem Session.Reachable.sound_ledger {session : Session} (reachable : session.Reachable) :
    session.ledger.Sound := by
  obtain ⟨operations, rfl⟩ := reachable
  induction operations using List.reverseRecOn with
  | nil => exact trivial
  | append_singleton earlier operation ih =>
    rw [History.ofOperations_append, List.foldl_cons, List.foldl_nil, History.session_step]
    exact Session.sound_ledger_apply ih operation

theorem Workplace.reachable_of_mem_ofMoves {moves : List Move} {session : Session}
    (member : session ∈ ofMoves moves) : session.Reachable :=
  forall_mem_ofMoves ⟨[], rfl⟩ (fun _ operation reachable => reachable.apply operation) moves session
    member

/-- Whatever is done in a session and its copies, a ledger of n runs holds the ids from n down to 1,
and each run has the actions that its command is accepted with, all turns of which are allowed. Its
commands, entered oldest first in a new session where anything is selected, are all accepted with any
inventories, and leave the same ids, commands and actions. A ledger that has been in some place before
is the end of the one that is there now, and of the one of each copy that was made there. -/
theorem ledger_tells_its_runs (moves : List Move) :
    (∀ session ∈ Workplace.ofMoves moves, session.Reachable ∧
      session.ledger.map Run.id = (List.range' 1 session.ledger.length).reverse ∧
      (∀ run ∈ session.ledger, run.actions ≠ [] ∧ interpret run.command = .accepted run.actions [] ∧
        ∀ action ∈ run.actions, action.kind.motionClass = .rotational →
          action.magnitude.value ∈ [0, 90, 180, 270, 360]) ∧
      ∀ selection entries, selection ≠ "" →
        entries.map Prod.fst = (session.ledger.map Run.command).reverse →
        let replayed := History.ofOperations (entering selection entries)
        replayed.reports.length = session.ledger.length ∧
          (∀ report ∈ replayed.reports, report.ok = true) ∧
          replayed.session.ledger.map Run.content = session.ledger.map Run.content) ∧
    ∀ earlier later, moves = earlier ++ later →
      ∀ (place : Nat) before, (Workplace.ofMoves earlier)[place]? = some before →
        (∃ after, (Workplace.ofMoves moves)[place]? = some after ∧ before.ledger <:+ after.ledger) ∧
        ∀ rest, later = .copy place :: rest →
          ∃ after, (Workplace.ofMoves moves)[(Workplace.ofMoves earlier).length]? = some after ∧
            before.ledger <:+ after.ledger := by
  constructor
  · intro session member
    have reachable := Workplace.reachable_of_mem_ofMoves member
    have sound := reachable.sound_ledger
    refine ⟨reachable, sound.ids, ?_, ?_⟩
    · intro run inside
      have meaning := sound.accepted run inside
      exact ⟨actions_ne_nil_of_accepted meaning, meaning, turns_of_accepted meaning⟩
    · intro selection entries selected commands
      have replays := History.replays_entering sound selected commands
      exact ⟨replays.count, replays.ok, replays.content⟩
  · rintro earlier later rfl place before here
    rw [Workplace.ofMoves_append]
    refine ⟨Workplace.suffix_foldl_step here later, ?_⟩
    rintro rest rfl
    exact Workplace.suffix_foldl_step_copy here rest

/-- Of three simulations the second one is rejected, and the third one is made in a copy. The commands
of the two runs of the copy, entered in a new session with another forklift, leave the same runs. -/
theorem ledger_tells_its_runs_around_a_rejection :
    let moves : List Move := [
      .operate 0 (.select "M-1"), .operate 0 (.setCommand "F10"), .operate 0 (.simulate [] ⟨0, 0⟩),
      .operate 0 (.setCommand "R45"), .operate 0 (.simulate [] ⟨1, 0⟩), .copy 0,
      .operate 1 (.setCommand "L90B2"), .operate 1 (.simulate [] ⟨2, 0⟩)]
    let entries : List (String × Inventory × Timestamp) := [("F10", [], ⟨5, 0⟩), ("L90B2", [], ⟨6, 0⟩)]
    (Workplace.ofMoves moves).map (·.ledger.map Run.command) = [["F10"], ["L90B2", "F10"]] ∧
      (History.ofOperations (entering "M-2" entries)).session.ledger.map Run.content =
        [(2, "L90B2", (interpret "L90B2").actions), (1, "F10", (interpret "F10").actions)] := by
  intro moves entries
  have sessions : (Workplace.ofMoves moves).map (·.ledger.map Run.command) =
      [["F10"], ["L90B2", "F10"]] := by decide +kernel
  have told : (Workplace.ofMoves moves)[1]?.map (·.ledger.map Run.content) = some
      [(2, "L90B2", (interpret "L90B2").actions), (1, "F10", (interpret "F10").actions)] := by
    decide +kernel
  obtain ⟨session, found, content⟩ := Option.map_eq_some_iff.mp told
  have commands : entries.map Prod.fst = (session.ledger.map Run.command).reverse := by
    have same : (session.ledger.map Run.content).map (·.2.1) = ["L90B2", "F10"] := by
      rw [content]
      rfl
    rw [List.map_map] at same
    exact (congrArg List.reverse same).symm
  obtain ⟨-, -, -, replay⟩ :=
    (ledger_tells_its_runs moves).1 session (List.mem_of_getElem? found)
  obtain ⟨-, -, replayed⟩ := replay "M-2" entries (by decide) commands
  exact ⟨sessions, replayed.trans content⟩

end Forklift
