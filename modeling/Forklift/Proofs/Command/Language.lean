import Forklift.Command.Interpretation
import Forklift.Command.Step

/-! # The language of commands

A text is a command when one step or more spell it. Interpretation carries out the commands all of
whose steps are allowed. It rejects the other commands for their turns and every other text for its
format, so the two reasons tell what is wrong, and no further reason comes up.
-/

namespace Forklift

open Step

/-- A text that no steps spell is rejected for its leftmost violation. -/
theorem interpret_of_not_wellFormed {command : String} (malformed : ¬ WellFormed command) :
    ∃ violation, Violation.first? command = some violation ∧
      interpret command = .rejected .format [violation.diagnostic] := by
  obtain ⟨violation, found⟩ := Option.ne_none_iff_exists'.1 malformed
  refine ⟨violation, found, ?_⟩
  simp only [interpret, found]

/-- The steps of a command become its actions if all of them are allowed. -/
theorem Step.Spells.interpret_of_allowed {steps : List Step} {command : String}
    (spelled : Spells steps command) (allowed : ∀ step ∈ steps, step.Allowed) :
    interpret command = .accepted (steps.map action) [] := by
  have passed : Violation.first? command = none := wellFormed_iff.2 ⟨steps, spelled⟩
  have valid : ∀ token ∈ tokens command, token.fault? = none := by
    rw [spelled.tokens_eq]
    exact forall_layOut_fault?_iff.2 allowed
  have actions : (validate (tokens command)).accepted.map Action.ofToken = steps.map action := by
    rw [Validation.accepted_validate_of_valid valid, spelled.tokens_eq, map_ofToken_layOut]
  have some_action : (steps.map action).isEmpty = false := by
    simpa using spelled.1
  have silent : (validate (tokens command)).issues = [] :=
    Validation.issues_validate_eq_nil_iff.2 valid
  simp only [interpret, passed, Validation.rejection?_validate_eq_none_iff.2 valid, actions,
    silent, some_action, Bool.false_eq_true, ↓reduceIte]

/-- A command with a step that is not allowed is rejected, and each such step has its finding. -/
theorem Step.Spells.interpret_of_not_allowed {steps : List Step} {command : String}
    (spelled : Spells steps command) (refused : ¬ ∀ step ∈ steps, step.Allowed) :
    interpret command = .rejected .rotationalRange (validate (tokens command)).issues := by
  have passed : Violation.first? command = none := wellFormed_iff.2 ⟨steps, spelled⟩
  have faulty : ¬ ∀ token ∈ tokens command, token.fault? = none := by
    rw [spelled.tokens_eq]
    exact mt forall_layOut_fault?_iff.1 refused
  simp only [interpret, passed, Validation.rejection?_validate_of_faulty faulty]

/-- A command that has passed the gate and the validation has an action. -/
theorem actions_ne_nil_of_valid {command : String} (passed : WellFormed command)
    (valid : (validate (tokens command)).rejection? = none) :
    (validate (tokens command)).accepted.map Action.ofToken ≠ [] := by
  obtain ⟨steps, spelled⟩ := wellFormed_iff.1 passed
  have sound := Validation.rejection?_validate_eq_none_iff.1 valid
  rw [Validation.accepted_validate_of_valid sound, spelled.tokens_eq, map_ofToken_layOut]
  simpa using spelled.1

/-- The three things that interpretation can come to. -/
theorem interpret_cases (command : String) :
    ((¬ ∃ steps, Spells steps command) ∧
      ∃ violation, interpret command = .rejected .format [Violation.diagnostic violation]) ∨
    (∃ steps, Spells steps command ∧ (∀ step ∈ steps, step.Allowed) ∧
      interpret command = .accepted (steps.map action) []) ∨
    (∃ steps, Spells steps command ∧ (∃ step ∈ steps, ¬ step.Allowed) ∧
      interpret command = .rejected .rotationalRange (validate (tokens command)).issues) := by
  by_cases passed : WellFormed command
  · obtain ⟨steps, spelled⟩ := wellFormed_iff.1 passed
    by_cases allowed : ∀ step ∈ steps, step.Allowed
    · exact .inr (.inl ⟨steps, spelled, allowed, spelled.interpret_of_allowed allowed⟩)
    · have refused : ∃ step ∈ steps, ¬ step.Allowed := by simpa using allowed
      exact .inr (.inr ⟨steps, spelled, refused, spelled.interpret_of_not_allowed allowed⟩)
  · obtain ⟨violation, -, rejected⟩ := interpret_of_not_wellFormed passed
    exact .inl ⟨mt wellFormed_iff.2 passed, violation, rejected⟩

/-- The commands that are carried out are those whose steps are all allowed. -/
theorem interpret_ok_iff {command : String} :
    (interpret command).ok = true ↔
      ∃ steps, Spells steps command ∧ ∀ step ∈ steps, step.Allowed := by
  constructor
  · intro accepted
    rcases interpret_cases command with ⟨-, violation, rejected⟩ | ⟨steps, spelled, allowed, -⟩ |
      ⟨steps, -, -, rejected⟩
    · rw [rejected] at accepted
      contradiction
    · exact ⟨steps, spelled, allowed⟩
    · rw [rejected] at accepted
      contradiction
  · rintro ⟨steps, spelled, allowed⟩
    rw [spelled.interpret_of_allowed allowed]
    rfl

/-- A command that is accepted has an action. -/
theorem actions_ne_nil_of_accepted {command : String} {actions : List Action}
    {diagnostics : List Diagnostic} (accepted : interpret command = .accepted actions diagnostics) :
    actions ≠ [] := by
  rcases interpret_cases command with ⟨-, violation, rejected⟩ | ⟨steps, spelled, -, meaning⟩ |
    ⟨steps, -, -, rejected⟩
  · rw [rejected] at accepted
    contradiction
  · rw [meaning] at accepted
    cases accepted
    simpa using spelled.1
  · rw [rejected] at accepted
    contradiction

/-- Each turn of a command that is accepted is by up to four right angles. -/
theorem turns_of_accepted {command : String} {actions : List Action}
    {diagnostics : List Diagnostic} (accepted : interpret command = .accepted actions diagnostics) :
    ∀ action ∈ actions, action.kind.motionClass = .rotational →
      action.magnitude.value ∈ [0, 90, 180, 270, 360] := by
  rcases interpret_cases command with ⟨-, violation, rejected⟩ | ⟨steps, -, allowed, meaning⟩ |
    ⟨steps, -, -, rejected⟩
  · rw [rejected] at accepted
    contradiction
  · rw [meaning] at accepted
    cases accepted
    intro action member
    obtain ⟨step, inside, rfl⟩ := List.mem_map.1 member
    exact allowed step inside
  · rw [rejected] at accepted
    contradiction

/-- What is not accepted has no action and a finding. -/
theorem findings_of_not_ok {command : String} (refused : (interpret command).ok = false) :
    (interpret command).actions = [] ∧ (interpret command).diagnostics ≠ [] := by
  rcases interpret_cases command with ⟨-, violation, meaning⟩ | ⟨steps, -, -, meaning⟩ |
    ⟨steps, spelled, ⟨step, member, outside⟩, meaning⟩
  · rw [meaning]
    exact ⟨rfl, List.cons_ne_nil _ _⟩
  · rw [meaning] at refused
    contradiction
  · rw [meaning]
    refine ⟨rfl, ?_⟩
    intro silent
    have valid := Validation.issues_validate_eq_nil_iff.1 silent
    rw [spelled.tokens_eq, forall_layOut_fault?_iff] at valid
    exact outside (valid step member)

/-- The reason is the format exactly where no steps spell the text. -/
theorem rejection?_eq_format_iff {command : String} :
    (interpret command).rejection? = some .format ↔ ¬ ∃ steps, Spells steps command := by
  rcases interpret_cases command with ⟨unspelled, violation, meaning⟩ |
    ⟨steps, spelled, -, meaning⟩ | ⟨steps, spelled, -, meaning⟩
  · rw [meaning]
    exact iff_of_true rfl unspelled
  · rw [meaning]
    exact iff_of_false nofun (not_not_intro ⟨steps, spelled⟩)
  · rw [meaning]
    exact iff_of_false nofun (not_not_intro ⟨steps, spelled⟩)

/-- The reason is a turn exactly where steps spell the text and one of them is not allowed. -/
theorem rejection?_eq_rotationalRange_iff {command : String} :
    (interpret command).rejection? = some .rotationalRange ↔
      ∃ steps, Spells steps command ∧ ∃ step ∈ steps, ¬ step.Allowed := by
  rcases interpret_cases command with ⟨unspelled, violation, meaning⟩ |
    ⟨steps, spelled, allowed, meaning⟩ | ⟨steps, spelled, refused, meaning⟩
  · rw [meaning]
    apply iff_of_false nofun
    rintro ⟨steps, spelled, -⟩
    exact unspelled ⟨steps, spelled⟩
  · rw [meaning, spelled.exists_iff]
    apply iff_of_false nofun
    rintro ⟨step, member, refused⟩
    exact refused (allowed step member)
  · rw [meaning]
    exact iff_of_true rfl ⟨steps, spelled, refused⟩

/-- No reason but the format and a turn comes up. -/
theorem format_or_rotationalRange {command : String} {reason : Rejection}
    (rejected : (interpret command).rejection? = some reason) :
    reason = .format ∨ reason = .rotationalRange := by
  rcases interpret_cases command with ⟨-, violation, meaning⟩ | ⟨steps, -, -, meaning⟩ |
    ⟨steps, -, -, meaning⟩
  · rw [meaning] at rejected
    exact .inl (Option.some.inj rejected).symm
  · rw [meaning] at rejected
    contradiction
  · rw [meaning] at rejected
    exact .inr (Option.some.inj rejected).symm

/-- Interpretation decides the language of commands with allowed steps. What it rejects has no
action and a finding; the reason is the format exactly where no steps spell the text, and the turns
exactly where steps do but one of them is not allowed. -/
theorem interpret_decides (command : String) :
    ((interpret command).ok = true ↔
      ∃ steps, Spells steps command ∧ ∀ step ∈ steps, step.Allowed) ∧
    ((interpret command).ok = true →
      (interpret command).rejection? = none ∧ (interpret command).actions ≠ []) ∧
    ((interpret command).ok = false →
      (interpret command).actions = [] ∧ (interpret command).diagnostics ≠ []) ∧
    ((interpret command).rejection? = some .format ↔ ¬ ∃ steps, Spells steps command) ∧
    ((interpret command).rejection? = some .rotationalRange ↔
      ∃ steps, Spells steps command ∧ ∃ step ∈ steps, ¬ step.Allowed) ∧
    (interpret command).rejection? ≠ some .linearRange ∧
    (interpret command).rejection? ≠ some .selectionMissing ∧
    (WellFormed command → (validate (tokens command)).rejection? = none →
      (validate (tokens command)).accepted.map Action.ofToken ≠ []) := by
  refine ⟨interpret_ok_iff, ?_, findings_of_not_ok, rejection?_eq_format_iff,
    rejection?_eq_rotationalRange_iff, ?_, ?_, actions_ne_nil_of_valid⟩
  · intro accepted
    cases meaning : interpret command with
    | accepted actions diagnostics => exact ⟨rfl, actions_ne_nil_of_accepted meaning⟩
    | rejected reason diagnostics =>
      rw [meaning] at accepted
      contradiction
  · intro rejected
    have possible := format_or_rotationalRange rejected
    contradiction
  · intro rejected
    have possible := format_or_rotationalRange rejected
    contradiction

end Forklift
