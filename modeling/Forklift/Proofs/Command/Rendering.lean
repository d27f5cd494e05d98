import Forklift.Command.LeadingZeros
import Forklift.Proofs.Command.Language
import Mathlib.Data.List.Forall2

/-! # Rendered commands

Rendering actions and interpreting a command undo each other. Rendering a command that is accepted
drops its leading zeros and nothing else, so its text never becomes longer. Commands with the same
descriptions are those that differ in leading zeros only.
-/

namespace Forklift

open Step

namespace Step

/-- Two steps are the same apart from leading zeros. -/
def SameButZeros (step other : Step) : Prop :=
  step.direction = other.direction ∧
    Magnitude.significant step.digits = Magnitude.significant other.digits

@[simp] theorem action_ofAction (action : Action) : (ofAction action).action = action := by
  rw [Step.action, magnitude_ofAction]
  rfl

theorem action_eq_iff {step other : Step} :
    step.action = other.action ↔ SameButZeros step other := by
  rw [SameButZeros, ← Magnitude.ofDigitChars_eq_iff step.all_isDigit other.all_isDigit]
  simp [action, magnitude]

theorem map_action_eq_iff {steps others : List Step} :
    steps.map action = others.map action ↔ List.Forall₂ SameButZeros steps others := by
  rw [← List.forall₂_eq_eq_eq, List.forall₂_map_left_iff, List.forall₂_map_right_iff]
  simp only [action_eq_iff]

/-- Written without leading zeros, no step becomes longer. -/
theorem length_spell_ofAction_le (steps : List Step) :
    (spell ((steps.map action).map ofAction)).length ≤ (spell steps).length := by
  induction steps with
  | nil => exact Nat.le_refl 0
  | cons step rest ih =>
    have shorter : (ofAction step.action).digits.length ≤ step.digits.length :=
      Magnitude.length_toDigits_ofDigitChars_le step.digits_ne_nil step.all_isDigit
    simp only [List.map_cons, spell_cons, List.length_cons, List.length_append]
    omega

end Step

namespace Action

theorem toList_render (actions : List Action) :
    (render actions).toList = spell (actions.map ofAction) :=
  String.toList_ofList

theorem spells_render {actions : List Action} (ne_nil : actions ≠ []) :
    Spells (actions.map ofAction) (render actions) :=
  ⟨mt List.map_eq_nil_iff.mp ne_nil, toList_render actions⟩

/-- Rendering writes each action as its token is shown, wherever that token was found. -/
theorem render_ofToken (tokens : List Token) :
    render (tokens.map ofToken) = String.join (tokens.map Token.text) := by
  have shown (token : Token) : token.text.toList = (ofAction (ofToken token)).spelling :=
    String.toList_ofList
  apply String.toList_inj.mp
  simp only [toList_render, spell, String.toList_join, List.flatMap_map, shown]

/-- What is rendered is interpreted as what it was rendered from. -/
theorem interpret_render {actions : List Action} (ne_nil : actions ≠ [])
    (allowed : ∀ action ∈ actions, (ofAction action).Allowed) :
    interpret (render actions) = .accepted actions [] := by
  rw [(spells_render ne_nil).interpret_of_allowed (List.forall_mem_map.mpr allowed), List.map_map]
  have recovered : Step.action ∘ ofAction = id := funext action_ofAction
  rw [recovered, List.map_id]

theorem render_injective : Function.Injective render := by
  intro actions others same
  have steps : actions.map ofAction = others.map ofAction := by
    apply spell_injective
    rw [← toList_render, same, toList_render]
  have injective : Function.Injective ofAction :=
    Function.LeftInverse.injective (g := Step.action) action_ofAction
  exact List.map_injective_iff.mpr injective steps

theorem toList_description (action : Action) :
    action.description.toList = action.kind.phrase.toList ++ (" by ".toList ++
      (action.magnitude.digits ++ (" ".toList ++ action.kind.unit.toList))) := by
  simp [description, toString, Magnitude.text]

/-- The second word of a description starts with the command letter. -/
theorem letter_of_description (action : Action) :
    action.description.toList[5]? = some action.kind.letter := by
  rw [toList_description]
  cases action.kind <;> rfl

/-- A description tells its action. -/
theorem description_injective : Function.Injective description := by
  intro action other same
  have kinds : action.kind = other.kind := by
    have letters : some action.kind.letter = some other.kind.letter := by
      rw [← letter_of_description, same, letter_of_description]
    have found := congrArg Direction.ofLetter? (Option.some.inj letters)
    simpa using found
  have digits : action.magnitude.digits = other.magnitude.digits := by
    have characters : action.description.toList = other.description.toList :=
      congrArg String.toList same
    rw [toList_description, toList_description, kinds] at characters
    exact List.append_cancel_right (List.append_cancel_left (List.append_cancel_left characters))
  have magnitudes : action.magnitude = other.magnitude := by
    have found := congrArg Magnitude.ofDigits? digits
    simpa using found
  obtain ⟨kind, magnitude⟩ := action
  rw [Action.mk.injEq]
  exact ⟨kinds, magnitudes⟩

end Action

/-- What a command that is accepted is made of. -/
theorem exists_spells_of_accepted {command : String} (accepted : (interpret command).ok = true) :
    ∃ steps, Spells steps command ∧ (∀ step ∈ steps, step.Allowed) ∧
      interpret command = .accepted (steps.map Step.action) [] := by
  obtain ⟨steps, spelled, allowed⟩ := interpret_ok_iff.mp accepted
  exact ⟨steps, spelled, allowed, spelled.interpret_of_allowed allowed⟩

theorem allowed_ofAction_iff {step : Step} : (ofAction step.action).Allowed ↔ step.Allowed := by
  rw [Allowed, Allowed, magnitude_ofAction]
  rfl

/-- Rendering the actions of an accepted command keeps their meaning, and adds no character. -/
theorem interpret_render_actions {command : String} (accepted : (interpret command).ok = true) :
    interpret (Action.render (interpret command).actions) = interpret command ∧
      (Action.render (interpret command).actions).length ≤ command.length ∧
      (Action.render (interpret command).actions).utf8ByteSize ≤ command.utf8ByteSize := by
  obtain ⟨steps, spelled, allowed, meaning⟩ := exists_spells_of_accepted accepted
  have some_action : steps.map Step.action ≠ [] := mt List.map_eq_nil_iff.mp spelled.1
  have rendered := Action.spells_render some_action
  have shorter : (Action.render (steps.map Step.action)).length ≤ command.length := by
    rw [← String.length_toList, ← String.length_toList, rendered.2, spelled.2]
    exact length_spell_ofAction_le steps
  rw [meaning]
  refine ⟨Action.interpret_render some_action ?_, shorter, ?_⟩
  · intro action member
    obtain ⟨step, inside, rfl⟩ := List.mem_map.mp member
    exact allowed_ofAction_iff.mpr (allowed step inside)
  · rw [spelled.utf8ByteSize_eq]
    exact le_of_eq_of_le rendered.utf8ByteSize_eq shorter

/-- Rendering and interpreting undo each other. Tokens with allowed turns, shown one behind the other,
are accepted with their kinds and magnitudes and without a finding. An accepted command keeps its
actions when it is rendered, becomes no longer, and is rendered the same ever after. Two accepted
commands have the same descriptions exactly where they are rendered the same, which is where their
steps are the same apart from leading zeros. -/
theorem interpret_render_inverse (tokens : List Token) (command other : String) :
    (tokens ≠ [] → (∀ token ∈ tokens, token.direction.motionClass = .rotational →
        token.magnitude.value ∈ [0, 90, 180, 270, 360]) →
      let read := interpret (String.join (tokens.map Token.text))
      read.ok = true ∧ read.diagnostics = [] ∧
        read.actions.map (fun action => (action.kind, action.magnitude)) =
          tokens.map fun token => (token.direction, token.magnitude)) ∧
    ((interpret command).ok = true →
      let rendered := Action.render (interpret command).actions
      (interpret rendered).ok = true ∧
        (interpret rendered).actions = (interpret command).actions ∧
        rendered.length ≤ command.length ∧ rendered.utf8ByteSize ≤ command.utf8ByteSize ∧
        Action.render (interpret rendered).actions = rendered) ∧
    ((interpret command).ok = true → (interpret other).ok = true →
      ((interpret command).actions.map Action.description =
          (interpret other).actions.map Action.description ↔
        Action.render (interpret command).actions = Action.render (interpret other).actions) ∧
      ∃ steps others, Spells steps command ∧ Spells others other ∧
        (Action.render (interpret command).actions = Action.render (interpret other).actions ↔
          List.Forall₂ SameButZeros steps others)) := by
  refine ⟨?_, ?_, ?_⟩
  · intro ne_nil turns
    have allowed : ∀ action ∈ tokens.map Action.ofToken, (ofAction action).Allowed := by
      intro action member
      obtain ⟨token, inside, rfl⟩ := List.mem_map.mp member
      rw [Allowed, magnitude_ofAction]
      exact turns token inside
    have read := Action.interpret_render (mt List.map_eq_nil_iff.mp ne_nil) allowed
    rw [← Action.render_ofToken, read]
    refine ⟨rfl, rfl, ?_⟩
    rw [Interpretation.actions, List.map_map]
    rfl
  · intro accepted rendered
    obtain ⟨same, shorter, smaller⟩ := interpret_render_actions accepted
    have read : interpret rendered = interpret command := same
    rw [read]
    exact ⟨accepted, rfl, shorter, smaller, rfl⟩
  · intro accepted again
    obtain ⟨steps, spelled, -, meaning⟩ := exists_spells_of_accepted accepted
    obtain ⟨others, spelled_other, -, meaning_other⟩ := exists_spells_of_accepted again
    refine ⟨?_, steps, others, spelled, spelled_other, ?_⟩
    · rw [Action.render_injective.eq_iff,
        (List.map_injective_iff.mpr Action.description_injective).eq_iff]
    · rw [Action.render_injective.eq_iff, meaning, meaning_other]
      exact map_action_eq_iff

end Forklift
