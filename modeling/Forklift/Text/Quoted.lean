import Forklift.Text.Visible

/-! # Quoted text

A message that shows a character or a text writes it between quotes so that its extent is certain:
the enclosing quote and the backslash are escaped, and a character that does not show on its own is
written by its code point.
-/

namespace Forklift.Text

/-- The quoted form of one character between `quote` marks. -/
def escaped (quote c : Char) : List Char :=
  if c = '\t' then ['\\', 't']
  else if c = '\n' then ['\\', 'n']
  else if c = '\r' then ['\\', 'r']
  else if c = '\x00' then ['\\', '0']
  else if c = '\\' || c = quote then ['\\', c]
  else if isVisible c then [c]
  else ['\\', 'u', '\x7b'] ++ Nat.toDigits 16 c.toNat ++ ['\x7d']

/-- A character between single quotes. -/
def quotedChar (c : Char) : String :=
  String.ofList ('\'' :: escaped '\'' c ++ ['\''])

/-- A text between double quotes. -/
def quoted (text : String) : String :=
  String.ofList ('"' :: text.toList.flatMap (escaped '"') ++ ['"'])

end Forklift.Text
