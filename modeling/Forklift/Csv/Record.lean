import Forklift.Text.Bytes

/-! # Comma-separated records

A record is a line of fields with commas between them. A field that opens with a quote runs to its
closing quote and may hold commas and line ends, and a quote inside it is written twice. A line ends
at a line feed, a carriage return or both together; blank lines are no records.
-/

namespace Forklift.Csv

/-- A place in a text: how many bytes and how many line feeds come before it. -/
structure Position where
  byte : Nat
  line : Nat
deriving DecidableEq, Repr

/-- The place behind a character. -/
def Position.after (position : Position) (c : Char) : Position :=
  ⟨position.byte + c.utf8Size, if c = '\n' then position.line + 1 else position.line⟩

/-- A record and the place behind the character that ended the record before it. -/
structure Record where
  fields : List String
  start : Position
deriving DecidableEq, Repr

/-- What the next character belongs to. -/
inductive Mode where
  /-- A new record. -/
  | recordStart
  /-- A new field of the record. -/
  | fieldStart
  /-- A field without quotes, or what follows the closing quote of a field. -/
  | plain
  /-- A quoted field. -/
  | quoted
  /-- A quoted field in which a quote has just been read. -/
  | quote
deriving DecidableEq, Repr

/-- How far a text has been read. Lists are kept with the last entry first. -/
structure Progress where
  mode : Mode
  field : List Char
  fields : List String
  records : List Record
  /-- The place where the record at hand starts. -/
  start : Position
  /-- The place of the next character. -/
  position : Position
deriving DecidableEq, Repr

namespace Progress

/-- Nothing has been read, from a place on. -/
def atStart (position : Position) : Progress :=
  ⟨.recordStart, [], [], [], position, position⟩

/-- Adds a character to the field at hand. -/
def push (progress : Progress) (c : Char) : Progress :=
  { progress with mode := .plain, field := c :: progress.field }

/-- Ends the field at hand. -/
def endField (progress : Progress) : Progress :=
  { progress with
    mode := .fieldStart
    field := []
    fields := String.ofList progress.field.reverse :: progress.fields }

/-- Ends the record at hand with the field at hand. -/
def endRecord (progress : Progress) : Progress :=
  let fields := progress.endField.fields
  { progress with
    mode := .recordStart
    field := []
    fields := []
    records := ⟨fields.reverse, progress.start⟩ :: progress.records
    start := progress.position }

def isLineEnd (c : Char) : Bool :=
  c = '\n' || c = '\r'

/-- Takes a character outside quotes. -/
def takePlain (progress : Progress) (c : Char) : Progress :=
  if c = ',' then progress.endField
  else if isLineEnd c then progress.endRecord
  else progress.push c

/-- Takes the first character of a field. -/
def takeFirst (progress : Progress) (c : Char) : Progress :=
  if c = '"' then { progress with mode := .quoted } else progress.takePlain c

/-- Takes the next character. -/
def step (before : Progress) (c : Char) : Progress :=
  let progress := { before with position := before.position.after c }
  match progress.mode with
  | .recordStart => if isLineEnd c then progress else progress.takeFirst c
  | .fieldStart => progress.takeFirst c
  | .plain => progress.takePlain c
  | .quoted =>
    if c = '"' then { progress with mode := .quote }
    else { progress with field := c :: progress.field }
  | .quote =>
    if c = '"' then { progress with mode := .quoted, field := c :: progress.field }
    else progress.takePlain c

/-- All records once the text has ended; the end of the text ends a record. -/
def finish (progress : Progress) : List Record :=
  match progress.mode with
  | .recordStart => progress.records.reverse
  | _ => progress.endRecord.records.reverse

end Progress

/-- The mark that may open a text to tell its encoding. -/
def byteOrderMark : Char := '\ufeff'

/-- The records of a text. One byte order mark at the very start is passed over. -/
def records (text : String) : List Record :=
  let origin : Position := ⟨0, 1⟩
  match text.toList with
  | [] => []
  | c :: rest =>
    if c = byteOrderMark then (rest.foldl Progress.step (.atStart (origin.after c))).finish
    else ((c :: rest).foldl Progress.step (.atStart origin)).finish

end Forklift.Csv
