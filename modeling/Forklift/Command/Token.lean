import Forklift.Command.Direction
import Forklift.Command.Magnitude
import Forklift.Diagnostic.Span

/-! # Tokens

A token is one step as it was found in a text: its direction, its magnitude and the bytes from its
letter to its last digit.
-/

namespace Forklift

/-- One step and the place where it was found. -/
structure Token where
  direction : Direction
  magnitude : Magnitude
  span : Span
deriving DecidableEq, Repr

namespace Token

/-- The canonical spelling: the upper-case letter and the digits without leading zeros. -/
def text (token : Token) : String :=
  String.ofList (token.direction.letter :: token.magnitude.digits)

/-- The same step in a text that starts `offset` bytes further left. -/
def shift (offset : Nat) (token : Token) : Token :=
  { token with span := token.span.shift offset }

end Token

end Forklift
