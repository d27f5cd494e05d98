import Forklift.Csv.Record

/-! # Written records

A record is written as fields with commas between them and a line end. A field may be quoted, and has
to be if it holds a comma, a quote or a line end; blank lines may stand before each record and after
the last one. Two texts that differ only in these choices hold the same records.
-/

namespace Forklift.Csv

/-- Whether a field that holds a character has to be quoted. -/
def forcesQuotes (c : Char) : Bool :=
  c = ',' || c = '"' || c = '\n' || c = '\r'

/-- A field and whether it is written between quotes. -/
structure WrittenField where
  text : String
  quoted : Bool
  quoted_of_forcesQuotes : text.toList.any forcesQuotes = true → quoted = true
deriving DecidableEq

namespace WrittenField

/-- A character between quotes. -/
def double (c : Char) : List Char :=
  if c = '"' then ['"', '"'] else [c]

/-- The characters of a field. -/
def spelling (field : WrittenField) : List Char :=
  if field.quoted then '"' :: (field.text.toList.flatMap double ++ ['"']) else field.text.toList

end WrittenField

/-- The ways to end a line. -/
inductive LineEnd where
  | lineFeed
  | carriageReturn
  | both
deriving DecidableEq, Repr

def LineEnd.spelling : LineEnd → List Char
  | lineFeed => ['\n']
  | carriageReturn => ['\r']
  | both => ['\r', '\n']

/-- Blank lines, the fields behind them and the end of their line. -/
structure WrittenRecord where
  blankLines : List LineEnd
  fields : List WrittenField
  lineEnd : LineEnd
deriving DecidableEq

namespace WrittenRecord

/-- Fields with commas between them. -/
def spellFields : List WrittenField → List Char
  | [] => []
  | [field] => field.spelling
  | field :: rest => field.spelling ++ ',' :: spellFields rest

/-- The characters of a record and of the blank lines before it. -/
def spelling (record : WrittenRecord) : List Char :=
  record.blankLines.flatMap LineEnd.spelling ++ spellFields record.fields ++ record.lineEnd.spelling

/-- The texts of the fields. -/
def texts (record : WrittenRecord) : List String :=
  record.fields.map WrittenField.text

/-- Whether a record is a blank line, which is no record when it is read. -/
def isBlank (record : WrittenRecord) : Bool :=
  (spellFields record.fields).isEmpty

end WrittenRecord

/-- Records with blank lines behind the last one. -/
def spell (written : List WrittenRecord) (blankLines : List LineEnd) : List Char :=
  written.flatMap WrittenRecord.spelling ++ blankLines.flatMap LineEnd.spelling

end Forklift.Csv
