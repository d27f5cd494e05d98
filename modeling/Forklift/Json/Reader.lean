import Forklift.Json.Tree
import Forklift.Json.Value

/-! # Reading JSON values

A tree is a value when all of its strings have a text, all of its numbers are within the range of
doubles, and its brackets are not nested too deep.
-/

namespace Forklift.Json

/-- How many brackets may be open at once. -/
def maxNesting : Nat := 127

namespace Tree

mutual

/-- The value of a tree that may open `nesting` brackets. -/
def value? (nesting : Nat) : Tree → Option Json
  | null => some .null
  | bool b => some (.bool b)
  | number n => if n.isFinite then some (.number n) else none
  | string text => text.map .string
  | array items =>
    match nesting with
    | 0 => none
    | nesting + 1 => (values? nesting [] items).map .array
  | object members =>
    match nesting with
    | 0 => none
    | nesting + 1 => (memberValues? nesting [] members).map .object
termination_by structural tree => tree

/-- The values of the items of an array, after those in `done`. -/
def values? (nesting : Nat) (done : List Json) : List Tree → Option (List Json)
  | [] => some done.reverse
  | item :: rest =>
    match value? nesting item with
    | none => none
    | some value => values? nesting (value :: done) rest
termination_by structural items => items

/-- The members of an object, after those in `done`. -/
def memberValues? (nesting : Nat) (done : List (String × Json)) :
    List (Option String × Tree) → Option (List (String × Json))
  | [] => some done.reverse
  | (none, _) :: _ => none
  | (some name, tree) :: rest =>
    match value? nesting tree with
    | none => none
    | some value => memberValues? nesting ((name, value) :: done) rest
termination_by structural members => members

end

end Tree

/-- The value that a text spells. -/
def ofText? (text : String) : Option Json :=
  (Tree.ofText? text).bind (Tree.value? maxNesting)

end Forklift.Json
