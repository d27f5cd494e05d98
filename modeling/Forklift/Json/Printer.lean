import Forklift.Json.Value

/-! # Writing JSON

A value is written either on one line or with one item or member to a line, two spaces deeper than
the bracket that holds it. Both layouts put the same marks in the same order and differ only in the
blanks between them.
-/

namespace Forklift.Json

/-- A hexadecimal digit in lower case. -/
def hexDigit (n : Nat) : Char :=
  Nat.digitChar (n % 16)

/-- One character inside quotes. Only the quote, the backslash and control characters are escaped. -/
def escape (c : Char) : List Char :=
  if c = '"' then ['\\', '"']
  else if c = '\\' then ['\\', '\\']
  else if c = '\x08' then ['\\', 'b']
  else if c = '\x0c' then ['\\', 'f']
  else if c = '\n' then ['\\', 'n']
  else if c = '\r' then ['\\', 'r']
  else if c = '\t' then ['\\', 't']
  else if c < ' ' then
    ['\\', 'u', '0', '0', hexDigit (c.toNat / 16), hexDigit c.toNat]
  else [c]

/-- A text between quotes. -/
def spellString (s : String) : List Char :=
  '"' :: s.toList.flatMap escape ++ ['"']

/-- The blanks of a written value. -/
structure Layout where
  /-- What comes before an item, a member or a closing bracket at a depth. -/
  line : Nat → List Char
  /-- What comes between the colon and the value of a member. -/
  gap : List Char

/-- Everything on one line and without blanks. -/
def Layout.compact : Layout :=
  ⟨fun _ => [], []⟩

/-- Two spaces for each level, and one after a colon. -/
def Layout.indented : Layout :=
  ⟨fun depth => '\n' :: List.replicate (2 * depth) ' ', [' ']⟩

mutual

/-- A value at a depth. -/
def spell (layout : Layout) (depth : Nat) : Json → List Char
  | null => ['n', 'u', 'l', 'l']
  | bool true => ['t', 'r', 'u', 'e']
  | bool false => ['f', 'a', 'l', 's', 'e']
  | number n => n.spell
  | string s => spellString s
  | array [] => ['[', ']']
  | array (item :: rest) =>
    '[' :: (layout.line (depth + 1) ++ spell layout (depth + 1) item ++
      spellItems layout (depth + 1) rest ++ layout.line depth ++ [']'])
  | object [] => ['\x7b', '\x7d']
  | object ((name, value) :: rest) =>
    '\x7b' :: (layout.line (depth + 1) ++ spellString name ++ ':' :: layout.gap ++
      spell layout (depth + 1) value ++ spellMembers layout (depth + 1) rest ++
      layout.line depth ++ ['\x7d'])
termination_by structural value => value

/-- The items after the first one. -/
def spellItems (layout : Layout) (depth : Nat) : List Json → List Char
  | [] => []
  | item :: rest =>
    ',' :: (layout.line depth ++ spell layout depth item ++ spellItems layout depth rest)
termination_by structural items => items

/-- The members after the first one. -/
def spellMembers (layout : Layout) (depth : Nat) : List (String × Json) → List Char
  | [] => []
  | (name, value) :: rest =>
    ',' :: (layout.line depth ++ spellString name ++ ':' :: layout.gap ++
      spell layout depth value ++ spellMembers layout depth rest)
termination_by structural members => members

end

/-- The value on one line. -/
def compact (value : Json) : String :=
  String.ofList (spell .compact 0 value)

/-- The value with one item or member to a line. -/
def indented (value : Json) : String :=
  String.ofList (spell .indented 0 value)

end Forklift.Json
