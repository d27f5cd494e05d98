import Forklift.Command.Action
import Forklift.Json.Record
import Forklift.Json.Value

/-! # Actions in JSON

A magnitude is written as a number while it fits in 64 bits and as a string of its digits beyond
that, so no reader loses a digit.
-/

namespace Forklift

namespace Magnitude

def toJson (magnitude : Magnitude) : Json :=
  if magnitude.value < UInt64.size then .nat magnitude.value else .string magnitude.text

end Magnitude

namespace Direction

def toJson (direction : Direction) : Json :=
  .string direction.name

def ofTree? (tree : Json.Tree) : Option Direction := do
  let name ← tree.case?
  all.find? (·.name == name)

end Direction

namespace MotionClass

def toJson (motionClass : MotionClass) : Json :=
  .string motionClass.name

def ofTree? (tree : Json.Tree) : Option MotionClass := do
  let name ← tree.case?
  all.find? (·.name == name)

end MotionClass

namespace Action

def toJson (action : Action) : Json :=
  .object [
    ("kind", action.kind.toJson),
    ("magnitude", action.magnitude.toJson),
    ("description", .string action.description),
    ("glyph", .string action.glyph.name)]

end Action

end Forklift
