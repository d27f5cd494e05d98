import Forklift.Command.Step
import Forklift.Text.Slice

/-! # The leftmost fault

The gate blames the character behind the longest beginning of a text that is empty or a command. A
letter is blamed for the digit that it lacks, though the gate only knows one character later; every
other character is blamed for standing where no step can start or go on.
-/

namespace Forklift

open Step

/-! ## Faults behind steps -/

namespace Step

/-- Whether a character behind steps cannot belong to a command: a letter without a digit, or no letter
at all, and a digit only if there is no step that it could belong to. -/
def IsFault (steps : List Step) (c : Char) (back : List Char) : Prop :=
  if isCommandLetter c then ∀ next ∈ back.head?, next.isDigit = false
  else c.isDigit = true → steps = []

theorem letter_or_digit_of_mem_spell {steps : List Step} {c : Char} (member : c ∈ spell steps) :
    isCommandLetter c = true ∨ c.isDigit = true := by
  obtain ⟨step, -, inside⟩ := List.mem_flatMap.1 member
  rcases List.mem_cons.1 inside with rfl | digit
  · exact .inl (isCommandLetter_letter step.direction)
  · exact .inr (List.all_eq_true.1 step.all_isDigit c digit)

/-- Steps that begin with a letter go on with a digit. -/
theorem head?_isDigit_of_spell_eq {steps : List Step} {c : Char} {tail : List Char}
    (spelled : spell steps = c :: tail) : ∃ d ∈ tail.head?, d.isDigit = true := by
  cases steps with
  | nil => simp at spelled
  | cons step rest =>
    obtain ⟨direction, digits, ne_nil, all⟩ := step
    obtain ⟨d, more, rfl⟩ := List.exists_cons_of_ne_nil ne_nil
    rw [spell_cons, List.cons.injEq] at spelled
    refine ⟨d, ?_, List.all_eq_true.1 all d (List.mem_cons_self ..)⟩
    rw [← spelled.2]
    rfl

/-- No steps that a text begins with go beyond a fault. -/
theorem IsFault.length_spell_le {steps others : List Step} {c : Char} {back : List Char}
    (fault : IsFault steps c back) (beginning : spell others <+: spell steps ++ c :: back) :
    (spell others).length ≤ (spell steps).length := by
  obtain ⟨rest, cut⟩ := beginning
  rcases List.append_eq_append_iff.1 cut with ⟨more, same, -⟩ | ⟨more, same, behind⟩
  · rw [same, List.length_append]
    exact Nat.le_add_right _ _
  · cases more with
    | nil => exact Nat.le_of_eq (by rw [same, List.append_nil])
    | cons d tail =>
      exfalso
      obtain ⟨rfl, rfl⟩ := List.cons.inj behind
      unfold IsFault at fault
      split at fault
      · rename_i upper
        -- The steps would be cut in front of the letter, and the last part would go on with a digit.
        obtain ⟨before, after, -, -, further⟩ := exists_append_of_spell_eq upper same
        obtain ⟨next, first, digit⟩ := head?_isDigit_of_spell_eq further
        have behind : next ∈ (tail ++ rest).head? := by
          rw [List.head?_append, Option.mem_def.1 first]
          rfl
        rw [fault next behind] at digit
        contradiction
      · rename_i other
        have inside : c ∈ spell others := by
          rw [same]
          exact List.mem_append_right _ (List.mem_cons_self ..)
        rcases letter_or_digit_of_mem_spell inside with upper | digit
        · exact other upper
        · obtain rfl := fault digit
          cases others with
          | nil => simp at same
          | cons step further =>
            rw [spell_nil, List.nil_append, spell_cons, List.cons.injEq] at same
            rw [← same.1, isDigit_letter] at digit
            contradiction

theorem exists_spell_append_digit {steps : List Step} (ne_nil : steps ≠ []) {c : Char}
    (digit : c.isDigit = true) : ∃ longer, longer ≠ [] ∧ spell steps ++ [c] = spell longer := by
  let last := steps.getLast ne_nil
  let longest : Step :=
    ⟨last.direction, last.digits ++ [c], by simp, by simp [last.all_isDigit, digit]⟩
  refine ⟨steps.dropLast ++ [longest], by simp, ?_⟩
  conv => lhs; rw [← List.dropLast_concat_getLast ne_nil]
  simp [longest, last]

end Step

/-! ## The gate finds the fault -/

namespace Violation

/-- The violation that puts the blame on a character. -/
def blame (c : Char) (offset : Nat) : Violation :=
  if isCommandLetter c then missingMagnitude c offset else unexpectedCharacter c offset

/-- Violations that name the fault behind the first steps of a text, or that a text is empty. -/
def IsLeftmost (text : List Char) (violation : Violation) : Prop :=
  text = [] ∧ violation = empty ∨
  ∃ steps c back, text = spell steps ++ c :: back ∧ IsFault steps c back ∧
    violation = blame c (Text.byteLength (spell steps))

end Violation

namespace GateState

variable {read rest : List Char} {c : Char}

/-- What has been read where the gate is in a state. -/
def Holds (read : List Char) : GateState → Prop
  | outset => read = []
  | letter c start => isCommandLetter c = true ∧
      ∃ steps, read = spell steps ++ [c] ∧ start = Text.byteLength (spell steps)
  | digits => ∃ steps, steps ≠ [] ∧ read = spell steps

theorem Holds.digit_of_letter {pending : Char} {start : Nat} (held : (letter pending start).Holds read)
    (digit : c.isDigit = true) : digits.Holds (read ++ [c]) := by
  obtain ⟨upper, steps, rfl, -⟩ := held
  obtain ⟨direction, rfl⟩ := isCommandLetter_iff.1 upper
  exact ⟨steps ++ [⟨direction, [c], by simp, by simp [digit]⟩], by simp, by simp⟩

theorem Holds.digit_of_digits (held : digits.Holds read) (digit : c.isDigit = true) :
    digits.Holds (read ++ [c]) := by
  obtain ⟨steps, ne_nil, rfl⟩ := held
  exact exists_spell_append_digit ne_nil digit

/-- Between steps a letter begins one. -/
theorem letter_holds {steps : List Step} (upper : isCommandLetter c = true) :
    (letter c (Text.byteLength (spell steps))).Holds (spell steps ++ [c]) :=
  ⟨upper, steps, rfl, rfl⟩

/-- The letter that is read last is the fault where no digit follows. -/
theorem Holds.isLeftmost_of_letter {start : Nat} (held : (letter c start).Holds read)
    (lacking : ∀ next ∈ rest.head?, next.isDigit = false) :
    (Violation.missingMagnitude c start).IsLeftmost (read ++ rest) := by
  obtain ⟨upper, steps, rfl, rfl⟩ := held
  refine .inr ⟨steps, c, rest, by simp, ?_, ?_⟩
  · rw [IsFault, if_pos upper]
    exact lacking
  · rw [Violation.blame, if_pos upper]

/-- Between steps a character that is no letter is the fault. -/
theorem isLeftmost_of_other {steps : List Step} (other : isCommandLetter c = false)
    (placed : c.isDigit = true → steps = []) :
    (Violation.unexpectedCharacter c (Text.byteLength (spell steps))).IsLeftmost
      (spell steps ++ c :: rest) := by
  refine .inr ⟨steps, c, rest, rfl, ?_, ?_⟩
  · rw [IsFault, if_neg (by simp [other])]
    exact placed
  · rw [Violation.blame, if_neg (by simp [other])]

end GateState

namespace Violation

/-- What the gate reports from a state on is the leftmost fault of all that it has read and reads. -/
theorem isLeftmost_of_scan {state : GateState} {read rest : List Char} {violation : Violation}
    (held : state.Holds read)
    (found : scan state (Text.byteLength read) rest = some violation) :
    violation.IsLeftmost (read ++ rest) := by
  induction rest generalizing state read with
  | nil =>
    cases state with
    | outset =>
      obtain rfl : read = [] := held
      obtain rfl := Option.some.inj found
      exact .inl ⟨rfl, rfl⟩
    | letter pending start =>
      obtain rfl := Option.some.inj found
      exact held.isLeftmost_of_letter nofun
    | digits => simp [scan] at found
  | cons c rest ih =>
    have further {next : GateState} (holds : next.Holds (read ++ [c]))
        (goes_on : scan next (Text.byteLength read + c.utf8Size) rest = some violation) :
        violation.IsLeftmost (read ++ c :: rest) := by
      have later := ih holds (by simpa using goes_on)
      simpa using later
    cases state with
    | outset =>
      obtain rfl : read = spell [] := held
      simp only [scan] at found
      split at found
      · rename_i upper
        exact further (GateState.letter_holds upper) found
      · rename_i other
        obtain rfl := Option.some.inj found
        exact GateState.isLeftmost_of_other (by simpa using other) (fun _ => rfl)
    | letter pending start =>
      simp only [scan] at found
      split at found
      · rename_i digit
        exact further (held.digit_of_letter digit) found
      · rename_i other
        obtain rfl := Option.some.inj found
        apply held.isLeftmost_of_letter
        rintro next ⟨⟩
        simpa using other
    | digits =>
      simp only [scan] at found
      split at found
      · rename_i digit
        exact further (held.digit_of_digits digit) found
      · rename_i notDigit
        obtain ⟨steps, -, rfl⟩ := held
        split at found
        · rename_i upper
          exact further (GateState.letter_holds upper) found
        · rename_i other
          obtain rfl := Option.some.inj found
          exact GateState.isLeftmost_of_other (by simpa using other) fun digit =>
            absurd digit notDigit

theorem isLeftmost_of_first? {text : String} {violation : Violation}
    (found : first? text = some violation) : violation.IsLeftmost text.toList := by
  have nothing : GateState.outset.Holds [] := rfl
  exact isLeftmost_of_scan nothing found

/-- The finding points at the bytes of the character that is blamed. -/
theorem span_diagnostic_blame (c : Char) (offset : Nat) :
    (blame c offset).diagnostic.span = some ⟨offset, offset + c.utf8Size⟩ := by
  unfold blame
  split
  · rename_i upper
    obtain ⟨direction, rfl⟩ := isCommandLetter_iff.1 upper
    rw [utf8Size_letter]
    rfl
  · rfl

theorem blame_ne_empty (c : Char) (offset : Nat) : blame c offset ≠ empty := by
  unfold blame
  split <;> nofun

theorem blame_eq_missingMagnitude_iff {c : Char} {offset : Nat} :
    blame c offset = missingMagnitude c offset ↔ isCommandLetter c = true := by
  unfold blame
  split <;> simp_all

theorem blame_eq_unexpectedCharacter_iff {c : Char} {offset : Nat} :
    blame c offset = unexpectedCharacter c offset ↔ ¬ isCommandLetter c = true := by
  unfold blame
  split <;> simp_all

end Violation

/-! ## The longest beginning -/

/-- Beginnings of a text that are empty or commands of their own. -/
def IsSoundBeginning (beginning text : String) : Prop :=
  (∃ rest, text = beginning ++ rest) ∧ (beginning = "" ∨ WellFormed beginning)

/-- The longest of these beginnings. -/
def IsLongestSound (beginning text : String) : Prop :=
  IsSoundBeginning beginning text ∧
    ∀ other, IsSoundBeginning other text → other.utf8ByteSize ≤ beginning.utf8ByteSize

theorem empty_or_wellFormed_iff {text : String} :
    text = "" ∨ WellFormed text ↔ ∃ steps, text.toList = spell steps := by
  rw [wellFormed_iff]
  constructor
  · rintro (rfl | ⟨steps, -, same⟩)
    · exact ⟨[], rfl⟩
    · exact ⟨steps, same⟩
  · rintro ⟨steps, same⟩
    by_cases none : steps = []
    · refine .inl (String.toList_inj.1 ?_)
      rw [same, none]
      rfl
    · exact .inr ⟨steps, none, same⟩

/-- The steps in front of a fault are the longest beginning that is empty or a command. -/
theorem Step.IsFault.isLongestSound {steps : List Step} {c : Char} {back : List Char} {text : String}
    (fault : IsFault steps c back) (split : text.toList = spell steps ++ c :: back) :
    IsLongestSound (String.ofList (spell steps)) text := by
  refine ⟨⟨⟨String.ofList (c :: back), ?_⟩, empty_or_wellFormed_iff.2 ⟨steps, ?_⟩⟩, ?_⟩
  · rw [← String.ofList_append, ← split, String.ofList_toList]
  · exact String.toList_ofList
  · rintro other ⟨⟨rest, rfl⟩, sound⟩
    obtain ⟨others, same⟩ := empty_or_wellFormed_iff.1 sound
    rw [String.toList_append, same] at split
    have bound := fault.length_spell_le ⟨rest.toList, split⟩
    rw [← Text.byteLength_toList, same, Text.utf8ByteSize_ofList, byteLength_spell,
      byteLength_spell]
    exact bound

/-- The gate calls a text empty exactly where it is. In any other text that it refuses it blames the
character behind the longest beginning that is empty or a command: one of the letters, for the digit
that does not follow, or any other character, of which a digit stands first. Its finding points at
that character and no further, and in an empty text at the start. -/
theorem first?_blames_leftmost {text : String} {violation : Violation}
    (found : Violation.first? text = some violation) :
    (violation = .empty ↔ text = "") ∧
    (text = "" → violation.diagnostic.span = some ⟨0, 0⟩) ∧
    (text ≠ "" → ∃ front c back, text = front ++ (String.singleton c ++ back) ∧
      IsLongestSound front text ∧
      (violation = .missingMagnitude c front.utf8ByteSize ↔ c ∈ ['F', 'B', 'L', 'R']) ∧
      (violation = .unexpectedCharacter c front.utf8ByteSize ↔ c ∉ ['F', 'B', 'L', 'R']) ∧
      (c ∈ ['F', 'B', 'L', 'R'] → ∀ next ∈ back.toList.head?, next.isDigit = false) ∧
      (c.isDigit = true → front = "") ∧
      ∃ span, violation.diagnostic.span = some span ∧ span.start = front.utf8ByteSize ∧
        Text.slice? text span.start span.stop = some (String.singleton c)) := by
  have letters (c : Char) : c ∈ ['F', 'B', 'L', 'R'] ↔ isCommandLetter c = true := by
    simp [isCommandLetter, or_assoc]
  rcases Violation.isLeftmost_of_first? found with ⟨nothing, rfl⟩ | ⟨steps, c, back, split, fault, rfl⟩
  · have blank : text = "" := String.toList_eq_nil_iff.1 nothing
    exact ⟨iff_of_true rfl blank, fun _ => rfl, fun other => absurd blank other⟩
  · have notBlank : text ≠ "" := by
      rintro rfl
      simp at split
    refine ⟨iff_of_false (Violation.blame_ne_empty _ _) notBlank, fun blank => absurd blank notBlank,
      fun _ => ⟨String.ofList (spell steps), c, String.ofList back, ?_, fault.isLongestSound split,
        ?_, ?_, ?_, ?_, ?_⟩⟩
    · apply String.toList_inj.1
      simp [split]
    · rw [Text.utf8ByteSize_ofList, letters, Violation.blame_eq_missingMagnitude_iff]
    · rw [Text.utf8ByteSize_ofList, letters, Violation.blame_eq_unexpectedCharacter_iff]
    · intro upper
      rw [IsFault, if_pos ((letters c).1 upper)] at fault
      rw [String.toList_ofList]
      exact fault
    · intro digit
      have other : ¬ isCommandLetter c = true := by
        intro upper
        obtain ⟨direction, rfl⟩ := isCommandLetter_iff.1 upper
        rw [isDigit_letter] at digit
        exact Bool.false_ne_true digit
      rw [IsFault, if_neg other] at fault
      rw [fault digit]
      rfl
    · have around : text.toList = spell steps ++ ([c] ++ back) := split
      exact ⟨_, Violation.span_diagnostic_blame _ _, (Text.utf8ByteSize_ofList _).symm,
        Text.slice?_of_append around⟩

/-- A letter behind a step is blamed for the digit that it lacks, though a character of three bytes
follows. -/
theorem first?_blames_leftmost_of_letter :
    Violation.first? "F1R€" = some (.missingMagnitude 'R' 2) ∧ "F1R€" ≠ "" ∧
      ∃ front, IsLongestSound front "F1R€" ∧ front.utf8ByteSize = 2 := by
  have found : Violation.first? "F1R€" = some (.missingMagnitude 'R' 2) := by decide
  have notBlank : "F1R€" ≠ "" := by decide
  obtain ⟨-, -, blamed⟩ := first?_blames_leftmost found
  obtain ⟨front, c, back, -, longest, missing, unexpected, -⟩ := blamed notBlank
  have upper : c ∈ ['F', 'B', 'L', 'R'] := by
    apply Decidable.byContradiction
    intro other
    exact nomatch unexpected.2 other
  obtain ⟨-, size⟩ := Violation.missingMagnitude.inj (missing.2 upper)
  exact ⟨found, notBlank, front, longest, size.symm⟩

end Forklift
