import Forklift.Csv.WrittenTable
import Forklift.Proofs.Inventory.Shape

/-! # Inventories from tables

A written table is the inventory of the array that has an object for each row that holds a text. The
way in which the table is written has no part in it, and neither have blank lines. A row of another
width than the header makes the whole text unreadable, whatever its cells hold.
-/

namespace Forklift

open Csv

namespace Inventory

/-- The values of a row by the names of their columns. Of columns that share a name, the last one
counts. -/
def valuesByColumn : List String → List String → List (String × String)
  | name :: names, value :: values =>
    if name ∈ names then valuesByColumn names values
    else (name, value) :: valuesByColumn names values
  | _, _ => []

/-- Members that hold texts. -/
def textMembers (values : List (String × String)) : List (String × Json) :=
  values.map fun (name, value) => (name, .string value)

/-- The object that maps the names of columns to the values of a row. -/
def rowByColumn (header row : List String) : Json :=
  .object (textMembers (valuesByColumn header row))

theorem member?_textMembers_cons (name : String) (value : String × String)
    (rest : List (String × String)) :
    Json.member? name (textMembers (value :: rest)) =
      (Json.member? name (textMembers rest)).or
        (if value.1 = name then some (.string value.2) else none) :=
  Json.member?_cons name (value.1, .string value.2) (textMembers rest)

/-- Each column of a row has a value. -/
theorem member?_zip_ne_none {header row : List String} (widths : row.length = header.length)
    {name : String} (column : name ∈ header) :
    Json.member? name (textMembers (header.zip row)) ≠ none := by
  induction header generalizing row with
  | nil => cases column
  | cons key keys ih =>
    cases row with
    | nil => cases widths
    | cons field fields =>
      rw [List.zip_cons_cons, member?_textMembers_cons, Ne, Option.or_eq_none_iff]
      rintro ⟨later, here⟩
      obtain rfl | column := List.mem_cons.mp column
      · rw [if_pos rfl] at here
        cases here
      · exact ih (Nat.succ.inj widths) column later

/-- Leaving out the columns whose name is repeated changes nothing. -/
theorem member?_valuesByColumn {header row : List String} (widths : row.length = header.length)
    (name : String) :
    Json.member? name (textMembers (valuesByColumn header row)) =
      Json.member? name (textMembers (header.zip row)) := by
  induction header generalizing row with
  | nil => rfl
  | cons key keys ih =>
    cases row with
    | nil => cases widths
    | cons field fields =>
      have further := ih (Nat.succ.inj widths)
      rw [List.zip_cons_cons, member?_textMembers_cons, valuesByColumn]
      by_cases repeated : key ∈ keys
      · rw [if_pos repeated, further]
        by_cases same : key = name
        · rw [same] at repeated
          have later := member?_zip_ne_none (Nat.succ.inj widths) repeated
          obtain ⟨value, found⟩ := Option.ne_none_iff_exists'.mp later
          rw [found]
          rfl
        · rw [if_neg same, Option.or_none]
      · rw [if_neg repeated, member?_textMembers_cons, further]

theorem sameFields_rowByColumn {header row : List String} (widths : row.length = header.length) :
    SameFields (rowObject header row) (rowByColumn header row) := by
  intro field
  have held (key : String) : EquipmentField.held? key (textMembers (header.zip row)) =
      EquipmentField.held? key (textMembers (valuesByColumn header row)) := by
    rw [EquipmentField.held?, EquipmentField.held?, member?_valuesByColumn widths]
  exact ⟨held field.key, held field.alternateKey⟩

end Inventory

namespace Csv

/-- A record is reported where it has another width. -/
private theorem reported_eq_none_iff {width : Nat} {counted : Record × Nat} :
    (if counted.1.fields.length = width then none
      else some (⟨counted.2, counted.1.start, counted.1.fields.length, width⟩ : RaggedRecord)) =
        none ↔ counted.1.fields.length = width := by
  split
  · rename_i same
    exact iff_of_true rfl same
  · rename_i other
    exact iff_of_false nofun other

theorem firstRagged?_eq_none_iff {width : Nat} {rows : List Record} :
    firstRagged? width rows = none ↔ ∀ row ∈ rows, row.fields.length = width := by
  simp only [firstRagged?, List.findSome?_eq_none_iff, reported_eq_none_iff]
  exact forall_mem_zipIdx_iff fun row : Record => row.fields.length = width

/-- What is reported is the first record of another width, with its number. -/
theorem exists_of_firstRagged?_eq_some {width : Nat} {rows : List Record} {ragged : RaggedRecord}
    (found : firstRagged? width rows = some ragged) :
    ∃ earlier row later, rows = earlier ++ row :: later ∧
      (∀ other ∈ earlier, other.fields.length = width) ∧ row.fields.length ≠ width ∧
      ragged = ⟨earlier.length + 1, row.start, row.fields.length, width⟩ := by
  simp only [firstRagged?, List.findSome?_eq_some_iff, reported_eq_none_iff] at found
  obtain ⟨earlier, ⟨row, number⟩, later, split, reported, passed⟩ := found
  obtain ⟨before, after, rfl, rfl, rfl⟩ := exists_of_zipIdx_eq split
  have passed := (forall_mem_zipIdx_iff fun row : Record => row.fields.length = width).mp passed
  split at reported
  · cases reported
  · rename_i other
    rw [Nat.add_comm] at reported
    exact ⟨before, row, after, rfl, passed, other, (Option.some.inj reported).symm⟩

section Table

variable {text : String} {header : List String} {rows : List (List String)}

/-- Rows as wide as their header make a table. -/
theorem Table.ofText_of_even (read : (records text).map Record.fields = header :: rows)
    (even : ∀ row ∈ rows, row.length = header.length) : Table.ofText text = .ok ⟨header, rows⟩ := by
  obtain ⟨first, others, found, rfl, rfl⟩ := List.map_eq_cons_iff.mp read
  have unreported : firstRagged? first.fields.length others = none :=
    firstRagged?_eq_none_iff.mpr (List.forall_mem_map.mp even)
  simp only [Table.ofText, found, unreported]

/-- The first row of another width is the one for which a text is refused. -/
theorem Table.ofText_of_uneven (read : (records text).map Record.fields = header :: rows)
    (uneven : ∃ row ∈ rows, row.length ≠ header.length) :
    ∃ earlier row later start, rows = earlier ++ row :: later ∧
      (∀ other ∈ earlier, other.length = header.length) ∧ row.length ≠ header.length ∧
      Table.ofText text = .error ⟨earlier.length + 1, start, row.length, header.length⟩ := by
  obtain ⟨first, others, found, rfl, rfl⟩ := List.map_eq_cons_iff.mp read
  cases reported : firstRagged? first.fields.length others with
  | none =>
    obtain ⟨row, member, other⟩ := uneven
    obtain ⟨record, inside, rfl⟩ := List.mem_map.mp member
    exact absurd (firstRagged?_eq_none_iff.mp reported record inside) other
  | some ragged =>
    obtain ⟨earlier, row, later, rfl, even, other, rfl⟩ :=
      exists_of_firstRagged?_eq_some reported
    refine ⟨earlier.map Record.fields, row.fields, later.map Record.fields, row.start,
      List.map_append, List.forall_mem_map.mpr even, other, ?_⟩
    simp only [Table.ofText, found, reported, List.length_map]

end Table

end Csv

namespace Inventory

theorem not_all_isEmpty (row : List String) :
    (!row.all String.isEmpty) = row.any (· ≠ "") := by
  rw [Bool.eq_iff_iff]
  simp

/-- Dropping blank lines drops no row that holds a text. -/
theorem filter_texts_records (table : WrittenTable) :
    (table.records.map WrittenRecord.texts).filter (·.any (· ≠ "")) =
      (table.rows.map WrittenRecord.texts).filter (·.any (· ≠ "")) := by
  rw [WrittenTable.records]
  induction table.rows with
  | nil => rfl
  | cons row rest ih =>
    cases blank : row.isBlank with
    | true =>
      have empty : row.texts.any (· ≠ "") = false := by
        rw [← not_all_isEmpty, WrittenRecord.all_isEmpty_of_isBlank blank]
        rfl
      simp only [List.filter_cons, blank, empty, List.map_cons, Bool.not_true, Bool.false_eq_true,
        ↓reduceIte, ih]
    | false =>
      simp only [List.filter_cons, blank, List.map_cons, Bool.not_false, ↓reduceIte, ih]

/-- Rows as wide as the header describe the same, column by column. -/
theorem normalize_rowObjects {header : List String} {rows : List (List String)}
    (even : ∀ row ∈ rows, row.length = header.length) :
    normalize (.array (rows.map (rowObject header))) =
      normalize (.array (rows.map (rowByColumn header))) := by
  apply normalize_congr
  rw [List.forall₂_map_left_iff, List.forall₂_map_right_iff, List.forall₂_same]
  intro row member
  exact sameFields_rowByColumn (even row member)

theorem ofCsvText_of_even {table : WrittenTable}
    (even : ∀ row ∈ table.records, row.fields.length = table.header.fields.length) :
    ofCsvText table.text = normalize (.array
      (((table.rows.map WrittenRecord.texts).filter (·.any (· ≠ ""))).map
        (rowByColumn table.header.texts))) := by
  have widths : ∀ row ∈ table.records.map WrittenRecord.texts,
      row.length = table.header.texts.length := by
    rw [List.forall_mem_map]
    intro row member
    rw [WrittenRecord.length_texts, WrittenRecord.length_texts]
    exact even row member
  simp only [ofCsvText, Table.ofText_of_even table.map_fields_text widths, tableItems,
    not_all_isEmpty]
  rw [normalize_rowObjects, filter_texts_records]
  intro row member
  exact widths row (List.mem_of_mem_filter member)

theorem ofCsvText_of_uneven {table : WrittenTable}
    (uneven : ∃ row ∈ table.records, row.fields.length ≠ table.header.fields.length) :
    ∃ earlier row later start, table.records = earlier ++ row :: later ∧
      (∀ other ∈ earlier, other.fields.length = table.header.fields.length) ∧
      row.fields.length ≠ table.header.fields.length ∧
      ofCsvText table.text = .error (.invalidCsv
        ⟨earlier.length + 1, start, row.fields.length, table.header.fields.length⟩) := by
  have widths : ∃ row ∈ table.records.map WrittenRecord.texts,
      row.length ≠ table.header.texts.length := by
    obtain ⟨row, member, other⟩ := uneven
    refine ⟨row.texts, List.mem_map_of_mem member, ?_⟩
    rw [WrittenRecord.length_texts, WrittenRecord.length_texts]
    exact other
  obtain ⟨_, _, _, start, split, even, other, refused⟩ :=
    Table.ofText_of_uneven table.map_fields_text widths
  -- What is known of the texts of the rows is brought back to the rows.
  obtain ⟨earlier, rest, records, rfl, others⟩ := List.map_eq_append_iff.mp split
  obtain ⟨row, later, rfl, rfl, rfl⟩ := List.map_eq_cons_iff.mp others
  simp only [List.forall_mem_map, WrittenRecord.length_texts, List.length_map] at even other refused
  refine ⟨earlier, row, later, start, records, even, other, ?_⟩
  simp only [ofCsvText, refused]

/-- Where the rows that are no blank lines are as wide as the header, a written table is the inventory
of an array: it has an object for each row that holds a text, in their order, with the values of the
row by the names of its columns. Otherwise the text is refused for its first row of another width,
counted without blank lines, whatever the rows hold. -/
theorem ofCsvText_written (table : WrittenTable) :
    let width := table.header.fields.length
    let filled := (table.rows.map WrittenRecord.texts).filter (·.any (· ≠ ""))
    ((∀ row ∈ table.rows, row.isBlank = false → row.fields.length = width) →
      ofCsvText table.text =
        normalize (.array (filled.map (rowByColumn table.header.texts)))) ∧
    ((∃ row ∈ table.rows, row.isBlank = false ∧ row.fields.length ≠ width) →
      ∃ ragged earlier row later, ofCsvText table.text = .error (.invalidCsv ragged) ∧
        table.rows.filter (!·.isBlank) = earlier ++ row :: later ∧
        (∀ other ∈ earlier, other.fields.length = width) ∧ row.fields.length ≠ width ∧
        ragged.number = earlier.length + 1 ∧ ragged.width = row.fields.length ∧
        ragged.headerWidth = width) := by
  intro width filled
  constructor
  · intro even
    apply ofCsvText_of_even
    intro row member
    obtain ⟨written, visible⟩ := WrittenTable.mem_records.mp member
    exact even row written visible
  · rintro ⟨ragged, written, visible, other⟩
    obtain ⟨earlier, row, later, start, split, even, wide, refused⟩ :=
      ofCsvText_of_uneven ⟨ragged, WrittenTable.mem_records.mpr ⟨written, visible⟩, other⟩
    exact ⟨_, earlier, row, later, refused, split, even, wide, rfl, rfl, rfl⟩

end Inventory

end Forklift
