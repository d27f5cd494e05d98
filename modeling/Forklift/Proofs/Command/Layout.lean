import Forklift.Proofs.Command.Language

/-! # The layout of commands

The tokens of a well-formed text lie end to end: nothing is passed over, joined or moved. They are
the steps that spell the text, one token for each, and an accepted command has the actions of these
steps, shown in their own words.
-/

namespace Forklift

open Step

namespace Span

/-- Spans tile a range when none is empty, the first begins where the range does, each further one
where the one before it ends, and the last ends where the range does. -/
def Tiles (start stop : Nat) : List Span → Prop
  | [] => start = stop
  | span :: rest => span.start = start ∧ span.start < span.stop ∧ Tiles span.stop stop rest

/-- Every offset of a tiled range lies in one of the spans. -/
theorem Tiles.covers {start stop : Nat} {spans : List Span} (tiled : Tiles start stop spans)
    {offset : Nat} (lower : start ≤ offset) (upper : offset < stop) :
    ∃ span ∈ spans, span.start ≤ offset ∧ offset < span.stop := by
  induction spans generalizing start with
  | nil =>
    simp only [Tiles] at tiled
    omega
  | cons span rest ih =>
    obtain ⟨first, -, others⟩ := tiled
    by_cases here : offset < span.stop
    · exact ⟨span, List.mem_cons_self .., by omega, here⟩
    · obtain ⟨other, member, inside⟩ := ih others (by omega)
      exact ⟨other, List.mem_cons_of_mem _ member, inside⟩

end Span

namespace Step

/-- The line and the arrow that show a step. -/
def shown (step : Step) : String × Glyph :=
  match step.direction with
  | .forward => (s!"Move Forward by {step.magnitude.value} metres", .arrowUp)
  | .backward => (s!"Move Backward by {step.magnitude.value} metres", .arrowDown)
  | .turnLeft => (s!"Turn Left by {step.magnitude.value} degrees", .arrowBack)
  | .turnRight => (s!"Turn Right by {step.magnitude.value} degrees", .arrowForward)

theorem byteLength_spelling (step : Step) :
    Text.byteLength step.spelling = step.spelling.length := by
  rw [spelling, Text.byteLength_cons, Text.byteLength_of_all_isDigit step.all_isDigit,
    utf8Size_letter, List.length_cons, Nat.add_comm]

/-- The spans of steps end where the spelled characters end. -/
theorem tiles_layOut (offset : Nat) (steps : List Step) :
    Span.Tiles offset (offset + Text.byteLength (spell steps))
      ((layOut offset steps).map Token.span) := by
  induction steps generalizing offset with
  | nil => rfl
  | cons step rest ih =>
    have further := ih (offset + step.spelling.length)
    rw [← byteLength_spelling, Nat.add_assoc, ← Text.byteLength_append] at further
    refine ⟨rfl, ?_, ?_⟩
    · simp only [tokenAt, spelling, List.length_cons]
      omega
    · rw [byteLength_spelling] at further
      exact further

/-- The tokens of steps have their directions and the numbers that all their digits denote. -/
theorem map_layOut (offset : Nat) (steps : List Step) :
    (layOut offset steps).map (fun token => (token.direction, token.magnitude.value)) =
      steps.map fun step => (step.direction, Nat.ofDigitChars 10 step.digits 0) := by
  induction steps generalizing offset with
  | nil => rfl
  | cons step rest ih =>
    rw [layOut, List.map_cons, List.map_cons, ih]
    rfl

/-- An action is shown in the words and with the arrow of its step. -/
theorem shown_eq (step : Step) : (step.action.description, step.action.glyph) = step.shown := by
  obtain ⟨direction, digits, ne_nil, all⟩ := step
  have written (magnitude : Magnitude) : magnitude.text.toList = Nat.toDigits 10 magnitude.value :=
    String.toList_ofList
  cases direction
  all_goals
    refine Prod.ext (String.toList_inj.1 ?_) rfl
    simp [action, Action.description, shown, written, toString, Direction.phrase, Direction.unit,
      Direction.motionClass]

end Step

/-- Gate, lexer and compiler agree. The tokens of a well-formed text tile it and are its steps, of
which there is one list only; an accepted command has one action for each step, with its kind, its
number, and the words and the arrow that belong to them. -/
theorem tokens_tile (text : String) :
    (WellFormed text → ∃ steps, Spells steps text ∧ (∀ others, Spells others text → others = steps) ∧
      (TokenStream.ofText text).toList = tokens text ∧
      Span.Tiles 0 text.utf8ByteSize ((tokens text).map Token.span) ∧
      (∀ offset < text.utf8ByteSize,
        ∃ token ∈ tokens text, token.span.start ≤ offset ∧ offset < token.span.stop) ∧
      (tokens text).map (fun token => (token.direction, token.magnitude.value)) =
        steps.map fun step => (step.direction, Nat.ofDigitChars 10 step.digits 0)) ∧
    ((interpret text).ok = true → ∃ steps, Spells steps text ∧
      (interpret text).actions.map (fun action => (action.kind, action.magnitude.value)) =
        steps.map (fun step => (step.direction, Nat.ofDigitChars 10 step.digits 0)) ∧
      (interpret text).actions.map (fun action => (action.description, action.glyph)) =
        steps.map shown) := by
  constructor
  · intro passed
    obtain ⟨steps, spelled⟩ := wellFormed_iff.1 passed
    have tiled : Span.Tiles 0 text.utf8ByteSize ((tokens text).map Token.span) := by
      have laid := tiles_layOut 0 steps
      rwa [Nat.zero_add, ← spelled.2, Text.byteLength_toList, ← spelled.tokens_eq] at laid
    refine ⟨steps, spelled, fun others again => spelled.unique again, TokenStream.toList_ofText text,
      tiled, ?_, ?_⟩
    · intro offset inside
      obtain ⟨span, member, bounds⟩ := tiled.covers (Nat.zero_le offset) inside
      obtain ⟨token, token_member, rfl⟩ := List.mem_map.1 member
      exact ⟨token, token_member, bounds⟩
    · rw [spelled.tokens_eq]
      exact map_layOut 0 steps
  · intro accepted
    obtain ⟨steps, spelled, allowed⟩ := interpret_ok_iff.1 accepted
    refine ⟨steps, spelled, ?_, ?_⟩
    · rw [spelled.interpret_of_allowed allowed]
      simp only [Interpretation.actions, List.map_map]
      rfl
    · rw [spelled.interpret_of_allowed allowed]
      simp only [Interpretation.actions, List.map_map]
      exact List.map_congr_left fun step _ => shown_eq step

end Forklift
