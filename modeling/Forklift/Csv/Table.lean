import Forklift.Csv.Record

/-! # Tables

A table is a list of records of one width, of which the first names the columns. A text whose
records differ in width holds no table, whatever else is wrong with it.
-/

namespace Forklift.Csv

/-- A header and the rows under it. -/
structure Table where
  header : List String
  rows : List (List String)
deriving DecidableEq, Repr

/-- A record that is not as wide as the header. -/
structure RaggedRecord where
  /-- Which record it is, where the header is number 0. -/
  number : Nat
  start : Position
  width : Nat
  headerWidth : Nat
deriving DecidableEq, Repr

def RaggedRecord.message (ragged : RaggedRecord) : String :=
  s!"CSV error: record {ragged.number} (line: {ragged.start.line}, byte: {ragged.start.byte}): " ++
    s!"found record with {ragged.width} fields, but the previous record has " ++
    s!"{ragged.headerWidth} fields"

/-- The first record under the header whose width differs from that of the header. -/
def firstRagged? (headerWidth : Nat) (rows : List Record) : Option RaggedRecord :=
  (rows.zipIdx 1).findSome? fun (row, number) =>
    if row.fields.length = headerWidth then none
    else some ⟨number, row.start, row.fields.length, headerWidth⟩

namespace Table

/-- The table of a text; a text without records has no columns and no rows. -/
def ofText (text : String) : Except RaggedRecord Table :=
  match records text with
  | [] => .ok ⟨[], []⟩
  | header :: rows =>
    match firstRagged? header.fields.length rows with
    | some ragged => .error ragged
    | none => .ok ⟨header.fields, rows.map Record.fields⟩

end Table

end Forklift.Csv
