/-! # Colours

A coloured text stands between the mark that sets its colour and the mark that ends all colours.
-/

namespace Forklift.Terminal

/-- The colours in use. -/
inductive Colour where
  | red
  | green
  | yellow
  | blue
  | cyan
deriving DecidableEq, Repr

namespace Colour

/-- The number by which a terminal knows a foreground colour. -/
def number : Colour → Nat
  | red => 31
  | green => 32
  | yellow => 33
  | blue => 34
  | cyan => 36

/-- A text in a colour. -/
def paint (colour : Colour) (text : String) : String :=
  s!"\x1b[{colour.number}m{text}\x1b[0m"

end Colour

end Forklift.Terminal
