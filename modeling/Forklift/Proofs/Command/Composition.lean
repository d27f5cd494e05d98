import Forklift.Proofs.Command.Language

/-! # Commands one behind the other

A command can be cut between any two of its steps, and commands can be joined. What is read of the
whole is what is read of its parts: the tokens and the findings of the back stand further right by the
bytes of the front, and the whole is carried out exactly if both parts are.
-/

namespace Forklift

open Step

namespace Step.Spells

variable {steps front back : List Step} {a b command : String}

/-- The tokens of the back are shifted by the size of the front. -/
theorem tokens_append (spelled : Spells front a) (further : Spells back b) :
    tokens (a ++ b) = tokens a ++ (tokens b).map (Token.shift a.utf8ByteSize) := by
  have size : (spell front).length = a.utf8ByteSize := by
    rw [spelled.utf8ByteSize_eq, ← String.length_toList, spelled.2]
  rw [(spelled.append further).tokens_eq, spelled.tokens_eq, further.tokens_eq, layOut_append,
    map_shift_layOut, Nat.zero_add, Nat.add_zero, size]

theorem interpret_ok_iff_allowed (spelled : Spells steps command) :
    (interpret command).ok = true ↔ ∀ step ∈ steps, step.Allowed := by
  rw [interpret_ok_iff, spelled.exists_iff]

/-- The findings about a command are those of its validation, whether it is accepted or not. -/
theorem diagnostics_eq (spelled : Spells steps command) :
    (interpret command).diagnostics = (validate (tokens command)).issues := by
  by_cases allowed : ∀ step ∈ steps, step.Allowed
  · have valid : ∀ token ∈ tokens command, token.fault? = none := by
      rw [spelled.tokens_eq]
      exact forall_layOut_fault?_iff.mpr allowed
    rw [spelled.interpret_of_allowed allowed, Validation.issues_validate_eq_nil_iff.mpr valid]
    rfl
  · rw [spelled.interpret_of_not_allowed allowed]
    rfl

/-- The findings of the back are shifted by the size of the front. -/
theorem diagnostics_append (spelled : Spells front a) (further : Spells back b) :
    (interpret (a ++ b)).diagnostics =
      (interpret a).diagnostics ++
        (interpret b).diagnostics.map (Diagnostic.shift a.utf8ByteSize) := by
  rw [(spelled.append further).diagnostics_eq, spelled.diagnostics_eq, further.diagnostics_eq,
    spelled.tokens_append further, Validation.issues_validate_append,
    Validation.issues_validate_shift]

/-- The whole is accepted exactly if both parts are. -/
theorem ok_append_iff (spelled : Spells front a) (further : Spells back b) :
    (interpret (a ++ b)).ok = true ↔ (interpret a).ok = true ∧ (interpret b).ok = true := by
  rw [(spelled.append further).interpret_ok_iff_allowed, spelled.interpret_ok_iff_allowed,
    further.interpret_ok_iff_allowed]
  exact List.forall_mem_append

/-- An accepted whole has the actions of the front and then those of the back. -/
theorem actions_append (spelled : Spells front a) (further : Spells back b)
    (accepted : (interpret (a ++ b)).ok = true) :
    (interpret (a ++ b)).actions = (interpret a).actions ++ (interpret b).actions := by
  have allowed := (spelled.append further).interpret_ok_iff_allowed.mp accepted
  obtain ⟨before, behind⟩ := List.forall_mem_append.mp allowed
  rw [(spelled.append further).interpret_of_allowed allowed, spelled.interpret_of_allowed before,
    further.interpret_of_allowed behind]
  exact List.map_append

/-- A rejected command is rejected for its turns. -/
theorem rejection?_of_not_ok (spelled : Spells steps command)
    (refused : (interpret command).ok = false) :
    (interpret command).rejection? = some .rotationalRange := by
  have some_turn : ¬ ∀ step ∈ steps, step.Allowed := by
    rw [← spelled.interpret_ok_iff_allowed, refused]
    exact Bool.false_ne_true
  rw [spelled.interpret_of_not_allowed some_turn]
  rfl

end Step.Spells

/-- Behind a text that is not empty, a command can be cut in front of each of its letters. -/
theorem wellFormed_of_append {a b : String} {c : Char} (front : a ≠ "")
    (upper : isCommandLetter c = true) (first : b.toList.head? = some c)
    (passed : WellFormed (a ++ b)) : WellFormed a ∧ WellFormed b := by
  obtain ⟨steps, -, spelled⟩ := wellFormed_iff.mp passed
  obtain ⟨tail, letters⟩ := List.head?_eq_some_iff.mp first
  rw [String.toList_append, letters] at spelled
  obtain ⟨before, after, rfl, same, behind⟩ := exists_append_of_spell_eq upper spelled.symm
  have some_before : before ≠ [] := by
    rintro rfl
    exact front (String.toList_eq_nil_iff.mp same.symm)
  have some_after : after ≠ [] := by
    rintro rfl
    exact List.cons_ne_nil c tail behind.symm
  exact ⟨wellFormed_iff.mpr ⟨before, some_before, same.symm⟩,
    wellFormed_iff.mpr ⟨after, some_after, letters.trans behind.symm⟩⟩

/-- Reading is compositional. Two commands make a command, whose tokens are those of the front and
then those of the back, shifted by the bytes of the front. It is accepted exactly if both are, and
then has the actions of both; otherwise it is rejected for its turns, with the findings of the front
and then those of the back, shifted likewise. A command that is cut in front of a letter falls into
two commands, unless nothing is in front. -/
theorem interpret_append (a b : String) :
    (WellFormed a → WellFormed b →
      WellFormed (a ++ b) ∧
      (TokenStream.ofText (a ++ b)).toList = (TokenStream.ofText a).toList ++
        (TokenStream.ofText b).toList.map (Token.shift a.utf8ByteSize) ∧
      ((interpret (a ++ b)).ok = true ↔ (interpret a).ok = true ∧ (interpret b).ok = true) ∧
      ((interpret (a ++ b)).ok = true →
        (interpret (a ++ b)).actions = (interpret a).actions ++ (interpret b).actions) ∧
      ((interpret (a ++ b)).ok = false →
        (interpret (a ++ b)).diagnostics = (interpret a).diagnostics ++
          (interpret b).diagnostics.map (Diagnostic.shift a.utf8ByteSize) ∧
        (interpret (a ++ b)).rejection? = some .rotationalRange)) ∧
    (a ≠ "" → (∃ c ∈ ['F', 'B', 'L', 'R'], b.toList.head? = some c) →
      WellFormed (a ++ b) → WellFormed a ∧ WellFormed b) := by
  constructor
  · intro front back
    obtain ⟨before, spelled⟩ := wellFormed_iff.mp front
    obtain ⟨behind, further⟩ := wellFormed_iff.mp back
    have joined := spelled.append further
    refine ⟨wellFormed_iff.mpr ⟨before ++ behind, joined⟩, ?_, spelled.ok_append_iff further,
      spelled.actions_append further, ?_⟩
    · simp only [TokenStream.toList_ofText]
      exact spelled.tokens_append further
    · intro refused
      exact ⟨spelled.diagnostics_append further, joined.rejection?_of_not_ok refused⟩
  · rintro some_front ⟨c, letter, first⟩ passed
    have upper : isCommandLetter c = true := by
      simpa [isCommandLetter, or_assoc] using letter
    exact wellFormed_of_append some_front upper first passed

/-- A command with two faulty turns, cut in front of the second one: the finding about that turn is
shifted by the seven bytes of the front. -/
theorem interpret_append_of_faulty_turns :
    WellFormed ("F007R45" ++ "L450B2") ∧ WellFormed "F007R45" ∧ WellFormed "L450B2" ∧
      (interpret ("F007R45" ++ "L450B2")).diagnostics.map Diagnostic.span =
        [some ⟨4, 7⟩, some ⟨7, 11⟩] := by
  have whole : WellFormed ("F007R45" ++ "L450B2") := by decide
  obtain ⟨joined, cut⟩ := interpret_append "F007R45" "L450B2"
  obtain ⟨front, back⟩ := cut (by decide) ⟨'L', by decide, rfl⟩ whole
  obtain ⟨-, -, -, -, rejected⟩ := joined front back
  have findings := (rejected (by decide)).1
  refine ⟨whole, front, back, ?_⟩
  rw [findings]
  decide

end Forklift
