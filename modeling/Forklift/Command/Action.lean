import Forklift.Command.Token

/-! # Actions

An action is a step made ready for the forklift: what it does, without the place where it was
written. Its description and its arrow are determined by its kind and its magnitude.
-/

namespace Forklift

/-- The arrow that is shown beside an action. -/
inductive Glyph where
  | arrowUp
  | arrowDown
  | arrowBack
  | arrowForward
deriving DecidableEq, Repr

namespace Glyph

def name : Glyph → String
  | arrowUp => "arrow_up"
  | arrowDown => "arrow_down"
  | arrowBack => "arrow_back"
  | arrowForward => "arrow_forward"

def symbol : Glyph → Char
  | arrowUp => '↑'
  | arrowDown => '↓'
  | arrowBack => '←'
  | arrowForward => '→'

end Glyph

def Direction.glyph : Direction → Glyph
  | .forward => .arrowUp
  | .backward => .arrowDown
  | .turnLeft => .arrowBack
  | .turnRight => .arrowForward

/-- How a direction is put in a description. -/
def Direction.phrase : Direction → String
  | .forward => "Move Forward"
  | .backward => "Move Backward"
  | .turnLeft => "Turn Left"
  | .turnRight => "Turn Right"

/-- One motion of the forklift. -/
structure Action where
  kind : Direction
  magnitude : Magnitude
deriving DecidableEq, Repr

namespace Action

/-- The action that a step asks for. -/
def ofToken (token : Token) : Action :=
  ⟨token.direction, token.magnitude⟩

def glyph (action : Action) : Glyph :=
  action.kind.glyph

def description (action : Action) : String :=
  s!"{action.kind.phrase} by {action.magnitude.text} {action.kind.unit}"

/-- The line that shows the action: its arrow and its description. -/
def display (action : Action) : String :=
  s!"{action.glyph.symbol} {action.description}"

end Action

end Forklift
