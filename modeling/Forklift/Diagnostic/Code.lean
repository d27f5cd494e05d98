/-! # Diagnostic codes

Each code names one kind of finding: the thousands are grammar, turns and distances, and session.
Every code has an explanation, and no two codes share an identifier.
-/

namespace Forklift

/-- The kinds of finding that can be reported. -/
inductive Code where
  | invalidFormat
  | unexpectedCharacter
  | missingMagnitude
  | emptyCommand
  | distanceOutOfRange
  | turnOutOfRange
  | turnNotRightAngle
  | turnRejected
  | selectionMissing
  | equipmentNotFound
deriving DecidableEq, Repr

namespace Code

/-- All codes, in the order of their identifiers. -/
def all : List Code :=
  [invalidFormat, unexpectedCharacter, missingMagnitude, emptyCommand, distanceOutOfRange,
    turnOutOfRange, turnNotRightAngle, turnRejected, selectionMissing, equipmentNotFound]

/-- The identifier under which a code is reported. -/
def id : Code → String
  | invalidFormat => "FSM1001"
  | unexpectedCharacter => "FSM1002"
  | missingMagnitude => "FSM1003"
  | emptyCommand => "FSM1004"
  | distanceOutOfRange => "FSM2001"
  | turnOutOfRange => "FSM2002"
  | turnNotRightAngle => "FSM2003"
  | turnRejected => "FSM2004"
  | selectionMissing => "FSM3001"
  | equipmentNotFound => "FSM3002"

/-- What a code means and how to answer it. -/
def explanation : Code → String
  | invalidFormat =>
    "The command does not match the movement grammar. A command is one or more " ++
      "steps written back to back, each an uppercase direction letter (F, B, L, R) " ++
      "followed by a whole number, e.g. F10R90L90B5."
  | unexpectedCharacter =>
    "Only the uppercase letters F, B, L, R and the digits 0-9 may appear in a " ++
      "command. Spaces, separators, signs, and lowercase letters are rejected."
  | missingMagnitude =>
    "Every direction letter must be followed by at least one digit giving the " ++
      "distance in metres (F, B) or the angle in degrees (L, R)."
  | emptyCommand => "The command is empty; enter at least one step such as F10."
  | distanceOutOfRange =>
    "Forward and backward distances are whole metres of 0 or more, with no upper " ++
      "limit. Every distance the grammar can express is valid."
  | turnOutOfRange => "Turn angles must lie between 0 and 360 degrees inclusive."
  | turnNotRightAngle => "Turn angles must be a multiple of 90 degrees: 0, 90, 180, 270, or 360."
  | turnRejected =>
    "The command contains at least one invalid turn, so none of its steps run. " ++
      "Each offending turn has its own diagnostic: FSM2002 for angles above 360, " ++
      "FSM2003 for angles that are not a multiple of 90."
  | selectionMissing =>
    "A simulation needs a selected forklift. Choose one by model number before " ++
      "simulating."
  | equipmentNotFound =>
    "The selected model number is not in the current inventory snapshot. The run " ++
      "is still recorded, without equipment details."

/-- The code with a given identifier, which must match exactly. -/
def ofId? (id : String) : Option Code :=
  all.find? (·.id == id)

theorem mem_all (code : Code) : code ∈ all := by
  cases code <;> decide

@[simp] theorem ofId?_id (code : Code) : ofId? code.id = some code := by
  cases code <;> decide

theorem id_injective {a b : Code} (same : a.id = b.id) : a = b := by
  simpa using congrArg ofId? same

end Code

/-- The explanation for an identifier, if it belongs to a code. -/
def explain? (id : String) : Option String :=
  (Code.ofId? id).map Code.explanation

end Forklift
