import Forklift.Command.Direction
import Forklift.Diagnostic.Basic
import Forklift.Text.Quoted

/-! # The command format

A command is one or more steps back to back, each an upper-case command letter followed by at least
one ASCII digit. The gate reads a text once and names its leftmost violation; a text that has none
is well formed.
-/

namespace Forklift

/-- The leftmost place where a text is not a command. -/
inductive Violation where
  /-- The text has no step at all. -/
  | empty
  /-- No step can start or go on with this character. -/
  | unexpectedCharacter (found : Char) (offset : Nat)
  /-- This letter has no digit after it. -/
  | missingMagnitude (letter : Char) (offset : Nat)
deriving DecidableEq, Repr

/-- What has been read of the step that the gate is in. -/
inductive GateState where
  /-- Nothing of the command has been read. -/
  | outset
  /-- The letter at an offset has been read and needs a digit. -/
  | letter (c : Char) (offset : Nat)
  /-- The step is complete and may have more digits. -/
  | digits
deriving DecidableEq, Repr

namespace Violation

/-- Reads on from a state at an offset and reports the first violation. -/
def scan (state : GateState) (offset : Nat) : List Char → Option Violation
  | [] =>
    match state with
    | .outset => some .empty
    | .letter c start => some (.missingMagnitude c start)
    | .digits => none
  | c :: rest =>
    match state with
    | .letter pending start =>
      if c.isDigit then scan .digits (offset + c.utf8Size) rest
      else some (.missingMagnitude pending start)
    | .digits =>
      if c.isDigit then scan .digits (offset + c.utf8Size) rest
      else if isCommandLetter c then scan (.letter c offset) (offset + c.utf8Size) rest
      else some (.unexpectedCharacter c offset)
    | .outset =>
      if isCommandLetter c then scan (.letter c offset) (offset + c.utf8Size) rest
      else some (.unexpectedCharacter c offset)

/-- The leftmost violation of the command format in a text. -/
def first? (text : String) : Option Violation :=
  scan .outset 0 text.toList

/-- The finding that reports a violation and points at the character to blame. -/
def diagnostic : Violation → Diagnostic
  | empty => .error .emptyCommand "command is empty" (some (Span.emptyAt 0))
  | unexpectedCharacter found offset =>
    .error .unexpectedCharacter
      s!"unexpected character {Text.quotedChar found}; expected one of F, B, L, R or a digit"
      (some ⟨offset, offset + found.utf8Size⟩)
      (some (Context.ofList [("found", found.toString)]))
  | missingMagnitude letter offset =>
    .error .missingMagnitude s!"direction {letter} has no magnitude"
      (some ⟨offset, offset + 1⟩)
      (some (Context.ofList [("letter", letter.toString)]))

end Violation

/-- A text is well formed when the gate finds no violation in it. -/
def WellFormed (text : String) : Prop :=
  Violation.first? text = none

instance (text : String) : Decidable (WellFormed text) :=
  inferInstanceAs (Decidable (Violation.first? text = none))

end Forklift
