import Forklift.Csv.ReadBack

/-! # Written tables

A table is written as a header with a record for each row. Reading the text finds the header and the
rows that are no blank lines, however they are written.
-/

namespace Forklift.Csv

/-- A header and rows as they are written, with blank lines behind them. The header has a column, and
is quoted where it could be taken for a blank line or for a byte order mark. -/
structure WrittenTable where
  header : WrittenRecord
  rows : List WrittenRecord
  blankLines : List LineEnd
  columns_ne_nil : header.fields ≠ []
  quoted_of_marked : ∀ field ∈ header.fields.head?,
    field.text.toList.head? = some byteOrderMark → field.quoted = true
  quoted_of_alone : ∀ field, header.fields = [field] → field.text = "" → field.quoted = true

namespace WrittenField

theorem spelling_eq_nil_iff {field : WrittenField} :
    field.spelling = [] ↔ field.quoted = false ∧ field.text = "" := by
  unfold spelling
  cases field.quoted <;> simp

end WrittenField

namespace WrittenRecord

theorem length_texts (record : WrittenRecord) : record.texts.length = record.fields.length :=
  List.length_map WrittenField.text

/-- Only no field, and an empty one without quotes, make a blank line. -/
theorem isBlank_iff {record : WrittenRecord} : record.isBlank = true ↔
    record.fields = [] ∨ ∃ field, record.fields = [field] ∧ field.spelling = [] := by
  rw [isBlank, List.isEmpty_iff]
  cases fields : record.fields with
  | nil => simp [spellFields]
  | cons field rest =>
    cases rest with
    | nil => simp [spellFields]
    | cons other others => simp [spellFields]

/-- A blank line holds no text. -/
theorem all_isEmpty_of_isBlank {record : WrittenRecord} (blank : record.isBlank = true) :
    record.texts.all String.isEmpty = true := by
  obtain none | ⟨field, alone, silent⟩ := isBlank_iff.mp blank
  · rw [texts, none]
    rfl
  · obtain ⟨-, empty⟩ := WrittenField.spelling_eq_nil_iff.mp silent
    rw [texts, alone, List.map_singleton, empty]
    rfl

end WrittenRecord

namespace WrittenTable

/-- The text of the table. -/
def text (table : WrittenTable) : String :=
  String.ofList (spell (table.header :: table.rows) table.blankLines)

/-- The rows that are no blank lines. -/
def records (table : WrittenTable) : List WrittenRecord :=
  table.rows.filter (!·.isBlank)

theorem mem_records {table : WrittenTable} {row : WrittenRecord} :
    row ∈ table.records ↔ row ∈ table.rows ∧ row.isBlank = false := by
  rw [records, List.mem_filter, Bool.not_eq_true']

theorem isBlank_header (table : WrittenTable) : table.header.isBlank = false := by
  apply Bool.eq_false_iff.mpr
  intro blank
  obtain none | ⟨field, alone, silent⟩ := WrittenRecord.isBlank_iff.mp blank
  · exact table.columns_ne_nil none
  · obtain ⟨unquoted, empty⟩ := WrittenField.spelling_eq_nil_iff.mp silent
    have quoted := table.quoted_of_alone field alone empty
    rw [unquoted] at quoted
    cases quoted

theorem head?_append_ne {front back : List Char} {c : Char} (unlike : front.head? ≠ some c)
    (behind : back.head? ≠ some c) : (front ++ back).head? ≠ some c := by
  cases front with
  | nil => exact behind
  | cons first rest => exact unlike

theorem head?_lineEnd_ne (lineEnd : LineEnd) (back : List Char) :
    (lineEnd.spelling ++ back).head? ≠ some byteOrderMark := by
  cases lineEnd <;> simp [LineEnd.spelling, byteOrderMark]

/-- The first column is quoted where it starts with the mark. -/
theorem head?_header_ne (table : WrittenTable) :
    (WrittenRecord.spellFields table.header.fields).head? ≠ some byteOrderMark := by
  obtain ⟨field, rest, fields⟩ := List.exists_cons_of_ne_nil table.columns_ne_nil
  have unmarked : field.spelling.head? ≠ some byteOrderMark := by
    intro marked
    unfold WrittenField.spelling at marked
    split at marked
    · cases marked
    · rename_i unquoted
      have first : field ∈ table.header.fields.head? := by rw [fields]; rfl
      exact unquoted (table.quoted_of_marked field first marked)
  rw [fields]
  cases rest with
  | nil => exact unmarked
  | cons other others => exact head?_append_ne unmarked nofun

/-- No byte order mark is read off the text of a table. -/
theorem head?_text_ne (table : WrittenTable) :
    table.text.toList.head? ≠ some byteOrderMark := by
  rw [text, String.toList_ofList, spell, List.flatMap_cons, WrittenRecord.spelling]
  cases table.header.blankLines with
  | nil =>
    simp only [List.flatMap_nil, List.nil_append, List.append_assoc]
    exact head?_append_ne table.head?_header_ne (head?_lineEnd_ne _ _)
  | cons lineEnd rest =>
    simp only [List.flatMap_cons, List.append_assoc]
    exact head?_lineEnd_ne lineEnd _

/-- Reading finds the header and the rows that are no blank lines. -/
theorem map_fields_text (table : WrittenTable) :
    (Csv.records table.text).map Record.fields =
      table.header.texts :: table.records.map WrittenRecord.texts := by
  have spelled : table.text.toList = spell (table.header :: table.rows) table.blankLines :=
    String.toList_ofList
  rw [map_fields_records spelled table.head?_text_ne, List.filter_cons, table.isBlank_header]
  rfl

/-- A record of two empty fields is read, unlike the blank line behind it. -/
example : ∃ table : WrittenTable, table.text = "name,\"a,b\"\r\n,\r\n" ∧
    (Csv.records table.text).map Record.fields = [["name", "a,b"], ["", ""]] :=
  ⟨{ header := ⟨[], [⟨"name", false, by decide⟩, ⟨"a,b", true, by decide⟩], .both⟩
     rows := [⟨[], [⟨"", false, by decide⟩, ⟨"", false, by decide⟩], .carriageReturn⟩]
     blankLines := [.lineFeed]
     columns_ne_nil := by decide
     quoted_of_marked := by decide
     quoted_of_alone := by simp }, by decide, by decide +kernel⟩

end WrittenTable

end Forklift.Csv
