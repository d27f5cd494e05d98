import Forklift.Command.Action
import Forklift.Command.Gate
import Forklift.Command.TokenStream
import Forklift.Command.Validation
import Forklift.Text.Bytes

/-! # Written steps

A step as it is written has a direction and a run of digits, leading zeros included. The well-formed
texts are exactly those that a non-empty list of steps spells, and reading such a text finds the
tokens of these steps, laid out one behind the other.
-/

namespace Forklift

/-- A step as it stands in a text. -/
structure Step where
  direction : Direction
  digits : List Char
  digits_ne_nil : digits ≠ []
  all_isDigit : digits.all Char.isDigit = true
deriving DecidableEq

namespace Step

/-- The characters of a step: its letter and its digits. -/
def spelling (step : Step) : List Char :=
  step.direction.letter :: step.digits

/-- The number that the digits of a step denote. -/
def magnitude (step : Step) : Magnitude :=
  ⟨Nat.ofDigitChars 10 step.digits 0⟩

/-- The characters of steps that are written back to back. -/
def spell (steps : List Step) : List Char :=
  steps.flatMap spelling

/-- Whether one step or more, written back to back, make up a text. -/
def Spells (steps : List Step) (text : String) : Prop :=
  steps ≠ [] ∧ text.toList = spell steps

/-- A distance is always allowed, and a turn by up to four right angles is. -/
def Allowed (step : Step) : Prop :=
  step.direction.motionClass = .rotational → step.magnitude.value ∈ [0, 90, 180, 270, 360]

instance (step : Step) : Decidable step.Allowed :=
  inferInstanceAs (Decidable (_ → _))

/-- The action that a step asks for. -/
def action (step : Step) : Action :=
  ⟨step.direction, step.magnitude⟩

/-- The canonical step for an action: its digits have no leading zeros. -/
def ofAction (action : Action) : Step :=
  ⟨action.kind, action.magnitude.digits, action.magnitude.digits_ne_nil,
    action.magnitude.all_isDigit_digits⟩

/-- The token of a step that is written at an offset. -/
def tokenAt (offset : Nat) (step : Step) : Token :=
  ⟨step.direction, step.magnitude, ⟨offset, offset + step.spelling.length⟩⟩

/-- The tokens of steps that are written back to back from an offset on. -/
def layOut (offset : Nat) : List Step → List Token
  | [] => []
  | step :: rest => step.tokenAt offset :: layOut (offset + step.spelling.length) rest

@[simp] theorem spell_nil : spell [] = [] := rfl

@[simp] theorem spell_cons (step : Step) (rest : List Step) :
    spell (step :: rest) = step.direction.letter :: (step.digits ++ spell rest) := by
  simp [spell, spelling]

@[simp] theorem spell_append (front back : List Step) :
    spell (front ++ back) = spell front ++ spell back := by
  simp [spell]

theorem ofDigits?_digits (step : Step) :
    Magnitude.ofDigits? step.digits = some step.magnitude := by
  simp [Magnitude.ofDigits?, step.digits_ne_nil, step.all_isDigit, magnitude]

@[simp] theorem magnitude_ofAction (action : Action) :
    (ofAction action).magnitude = action.magnitude := by
  simpa [ofAction] using (ofDigits?_digits (ofAction action)).symm

theorem utf8Size_letter (direction : Direction) : direction.letter.utf8Size = 1 := by
  cases direction <;> rfl

theorem isDigit_letter (direction : Direction) : direction.letter.isDigit = false := by
  cases direction <;> rfl

theorem isCommandLetter_letter (direction : Direction) :
    isCommandLetter direction.letter = true := by
  cases direction <;> rfl

/-- What follows a step is the end of the text or a letter, so its digits are the whole run. -/
theorem takeWhile_digits (step : Step) (rest : List Step) :
    (step.digits ++ spell rest).takeWhile Char.isDigit = step.digits := by
  rw [List.takeWhile_append_of_pos fun c mem => List.all_eq_true.1 step.all_isDigit c mem]
  cases rest <;> simp [isDigit_letter]

theorem dropWhile_digits (step : Step) (rest : List Step) :
    (step.digits ++ spell rest).dropWhile Char.isDigit = spell rest := by
  rw [List.dropWhile_append_of_pos fun c mem => List.all_eq_true.1 step.all_isDigit c mem]
  cases rest <;> simp [isDigit_letter]

/-- Steps take one byte for each character. -/
theorem byteLength_spell (steps : List Step) :
    Text.byteLength (spell steps) = (spell steps).length := by
  induction steps with
  | nil => rfl
  | cons step rest ih =>
    simp only [spell_cons, Text.byteLength_cons, Text.byteLength_append, utf8Size_letter,
      Text.byteLength_of_all_isDigit step.all_isDigit, ih, List.length_cons, List.length_append]
    omega

theorem Spells.utf8ByteSize_eq {steps : List Step} {text : String} (spelled : Spells steps text) :
    text.utf8ByteSize = text.length := by
  rw [← Text.byteLength_toList, spelled.2, byteLength_spell, ← spelled.2, String.length_toList]

theorem Spells.append {front back : List Step} {a b : String} (spelled : Spells front a)
    (further : Spells back b) : Spells (front ++ back) (a ++ b) := by
  refine ⟨List.append_ne_nil_of_left_ne_nil spelled.1 back, ?_⟩
  rw [String.toList_append, spelled.2, further.2, spell_append]

/-- Where spelled characters are cut in front of a letter, they are cut between two steps. -/
theorem exists_append_of_spell_eq {steps : List Step} {front back : List Char} {c : Char}
    (upper : isCommandLetter c = true) (cut : spell steps = front ++ c :: back) :
    ∃ before after, steps = before ++ after ∧ spell before = front ∧ spell after = c :: back := by
  induction steps generalizing front with
  | nil => simp at cut
  | cons step rest ih =>
    cases front with
    | nil => exact ⟨[], step :: rest, rfl, rfl, cut⟩
    | cons letter tail =>
      simp only [spell_cons, List.cons_append, List.cons.injEq] at cut
      obtain ⟨rfl, cut⟩ := cut
      obtain ⟨run, rfl, later⟩ | ⟨run, digits, later⟩ := List.append_eq_append_iff.1 cut
      · obtain ⟨before, after, rfl, same, behind⟩ := ih later
        exact ⟨step :: before, after, rfl, by simp [same], behind⟩
      · cases run with
        | nil =>
          rw [List.append_nil] at digits
          exact ⟨[step], rest, rfl, by simp [digits], later.symm⟩
        | cons d run =>
          -- A letter is no digit, so no cut in front of one lies within a run of digits.
          obtain ⟨direction, rfl⟩ := isCommandLetter_iff.1 upper
          obtain ⟨rfl, -⟩ := List.cons.inj later
          have digit := List.all_eq_true.1 step.all_isDigit direction.letter (by simp [digits])
          rw [isDigit_letter] at digit
          contradiction

/-! ## The gate -/

private theorem scan_digits (offset : Nat) {digits : List Char} (rest : List Char)
    (all : digits.all Char.isDigit = true) :
    Violation.scan .digits offset (digits ++ rest) =
      Violation.scan .digits (offset + digits.length) rest := by
  induction digits generalizing offset with
  | nil => rfl
  | cons c tail ih =>
    simp only [List.all_cons, Bool.and_eq_true] at all
    simp only [List.cons_append, Violation.scan, all.1, ↓reduceIte, ih _ all.2,
      Text.utf8Size_of_isDigit all.1, List.length_cons]
    congr 1
    omega

/-- The gate passes over a step at the start of a text and behind another step. -/
theorem scan_spelling {state : GateState} (between : state = .outset ∨ state = .digits)
    (offset : Nat) (step : Step) (rest : List Char) :
    Violation.scan state offset (step.spelling ++ rest) =
      Violation.scan .digits (offset + step.spelling.length) rest := by
  obtain ⟨direction, digits, ne_nil, all⟩ := step
  obtain ⟨c, tail, rfl⟩ := List.exists_cons_of_ne_nil ne_nil
  simp only [List.all_cons, Bool.and_eq_true] at all
  have inside : Violation.scan (.letter direction.letter offset) (offset + 1) (c :: (tail ++ rest)) =
      Violation.scan .digits (offset + (tail.length + 1 + 1)) rest := by
    simp only [Violation.scan, all.1, ↓reduceIte, Text.utf8Size_of_isDigit all.1,
      scan_digits _ _ all.2]
    congr 1
    omega
  rcases between with rfl | rfl <;>
    simpa [spelling, Violation.scan, isDigit_letter, isCommandLetter_letter, utf8Size_letter]
      using inside

/-- The gate finds nothing wrong behind a step where steps follow. -/
theorem scan_spell (offset : Nat) (steps : List Step) :
    Violation.scan .digits offset (spell steps) = none := by
  induction steps generalizing offset with
  | nil => rfl
  | cons step rest ih =>
    have head := scan_spelling (.inr rfl) offset step (spell rest)
    simpa [spelling, ih] using head

/-- What the gate lets pass behind the start of a step, told as digits and further steps. -/
private theorem spell_of_scan {state : GateState} {offset : Nat} {text : List Char}
    (passed : Violation.scan state offset text = none) :
    match state with
    | .outset => ∃ steps, steps ≠ [] ∧ text = spell steps
    | .letter _ _ => ∃ digits steps, digits ≠ [] ∧ digits.all Char.isDigit = true ∧
        text = digits ++ spell steps
    | .digits => ∃ digits steps, digits.all Char.isDigit = true ∧ text = digits ++ spell steps := by
  induction text generalizing state offset with
  | nil =>
    cases state with
    | outset => simp [Violation.scan] at passed
    | letter c start => simp [Violation.scan] at passed
    | digits => exact ⟨[], [], rfl, rfl⟩
  | cons c rest ih =>
    have begin_step (offset' : Nat) (upper : isCommandLetter c = true)
        (passed : Violation.scan (.letter c offset) offset' rest = none) :
        ∃ steps, steps ≠ [] ∧ c :: rest = spell steps := by
      obtain ⟨direction, rfl⟩ := isCommandLetter_iff.1 upper
      obtain ⟨digits, steps, ne_nil, all, rfl⟩ := ih passed
      exact ⟨⟨direction, digits, ne_nil, all⟩ :: steps, by simp, by simp⟩
    cases state with
    | outset =>
      simp only [Violation.scan] at passed
      split at passed
      · rename_i upper
        exact begin_step _ upper passed
      · simp at passed
    | letter pending start =>
      simp only [Violation.scan] at passed
      split at passed
      · rename_i digit
        obtain ⟨digits, steps, all, rfl⟩ := ih passed
        exact ⟨c :: digits, steps, by simp, by simp [digit, all], rfl⟩
      · simp at passed
    | digits =>
      simp only [Violation.scan] at passed
      split at passed
      · rename_i digit
        obtain ⟨digits, steps, all, rfl⟩ := ih passed
        exact ⟨c :: digits, steps, by simp [digit, all], rfl⟩
      · split at passed
        · rename_i upper
          obtain ⟨steps, -, same⟩ := begin_step _ upper passed
          exact ⟨[], steps, rfl, same⟩
        · simp at passed

/-- The well-formed texts are those that a non-empty list of steps spells. -/
theorem wellFormed_iff {text : String} : WellFormed text ↔ ∃ steps, Spells steps text := by
  constructor
  · intro passed
    have steps := spell_of_scan passed
    exact steps
  · rintro ⟨steps, ne_nil, same⟩
    obtain ⟨step, rest, rfl⟩ := List.exists_cons_of_ne_nil ne_nil
    have head := scan_spelling (.inl rfl) 0 step (spell rest)
    rw [scan_spell] at head
    simpa [WellFormed, Violation.first?, same, spelling] using head

/-- A text is spelled by at most one list of steps. -/
theorem spell_injective {a b : List Step} (same : spell a = spell b) : a = b := by
  induction a generalizing b with
  | nil =>
    cases b with
    | nil => rfl
    | cons step rest => simp at same
  | cons step rest ih =>
    cases b with
    | nil => simp at same
    | cons other others =>
      simp only [spell_cons, List.cons.injEq] at same
      obtain ⟨letters, tails⟩ := same
      have digits : step.digits = other.digits := by
        rw [← takeWhile_digits step rest, tails, takeWhile_digits]
      have directions : step.direction = other.direction := by
        have := congrArg Direction.ofLetter? letters
        simpa using this
      have further : rest = others := by
        apply ih
        rw [← dropWhile_digits step rest, tails, dropWhile_digits]
      cases step
      cases other
      simp_all

/-! ## The tokens -/

/-- Spelled characters hold exactly the tokens of their steps. -/
theorem tokensFrom_spell (offset : Nat) (steps : List Step) :
    tokensFrom offset (spell steps) = layOut offset steps := by
  induction steps generalizing offset with
  | nil => rfl
  | cons step rest ih =>
    have found : stepAt? offset step.direction.letter (step.digits ++ spell rest) =
        some (step.tokenAt offset) := by
      simp [stepAt?, takeWhile_digits, ofDigits?_digits, tokenAt, spelling]
      omega
    simp only [spell_cons, tokensFrom, found, tokensFrom_digits _ _ step.all_isDigit, ih, layOut,
      utf8Size_letter, spelling, List.length_cons]
    congr 2
    omega

theorem layOut_append (offset : Nat) (front back : List Step) :
    layOut offset (front ++ back) =
      layOut offset front ++ layOut (offset + (spell front).length) back := by
  induction front generalizing offset with
  | nil => rfl
  | cons step rest ih =>
    simp only [List.cons_append, layOut, ih, spell_cons, spelling, List.length_cons,
      List.length_append, Nat.add_assoc]
    congr 4
    omega

/-- Steps that are written further right have their tokens further right. -/
theorem map_shift_layOut (distance offset : Nat) (steps : List Step) :
    (layOut offset steps).map (Token.shift distance) = layOut (distance + offset) steps := by
  induction steps generalizing offset with
  | nil => rfl
  | cons step rest ih =>
    simp only [layOut, List.map_cons, ih, tokenAt, Token.shift, Span.shift, Nat.add_assoc]

/-- A spelled text holds exactly the tokens of its steps. -/
theorem Spells.tokens_eq {steps : List Step} {text : String} (spelled : Spells steps text) :
    tokens text = layOut 0 steps := by
  rw [tokens, spelled.2, tokensFrom_spell]

/-- A text is spelled by at most one list of steps. -/
theorem Spells.unique {steps others : List Step} {text : String} (spelled : Spells steps text)
    (again : Spells others text) : others = steps :=
  spell_injective (again.2.symm.trans spelled.2)

/-- What some steps of a text satisfy, the steps of the text satisfy. -/
theorem Spells.exists_iff {steps : List Step} {text : String} (spelled : Spells steps text)
    {property : List Step → Prop} :
    (∃ others, Spells others text ∧ property others) ↔ property steps := by
  constructor
  · rintro ⟨others, again, holds⟩
    exact spelled.unique again ▸ holds
  · intro holds
    exact ⟨steps, spelled, holds⟩

theorem fault?_tokenAt_eq_none_iff {offset : Nat} {step : Step} :
    (step.tokenAt offset).fault? = none ↔ step.Allowed := by
  rw [Token.fault?_eq_none_iff, Allowed]
  cases family : step.direction.motionClass <;> simp [tokenAt, family]

/-- The place where a step stands has no part in whether it is valid. -/
theorem forall_layOut_fault?_iff {offset : Nat} {steps : List Step} :
    (∀ token ∈ layOut offset steps, token.fault? = none) ↔ ∀ step ∈ steps, step.Allowed := by
  induction steps generalizing offset with
  | nil => simp [layOut]
  | cons step rest ih => simp [layOut, fault?_tokenAt_eq_none_iff, ih]

theorem map_ofToken_layOut (offset : Nat) (steps : List Step) :
    (layOut offset steps).map Action.ofToken = steps.map action := by
  induction steps generalizing offset with
  | nil => rfl
  | cons step rest ih =>
    rw [layOut, List.map_cons, List.map_cons, ih]
    rfl

end Step

/-- The text that spells actions in their canonical form. -/
def Action.render (actions : List Action) : String :=
  String.ofList (Step.spell (actions.map Step.ofAction))

end Forklift
