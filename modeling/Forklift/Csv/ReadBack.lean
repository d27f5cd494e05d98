import Forklift.Csv.Written

/-! # Reading back what was written

While a written text is read, what has been read so far is known at each boundary: inside a field,
behind a comma and behind a line end. So reading finds the texts of all fields, however each of them
was quoted and each line ended.
-/

namespace Forklift.Csv

/-- What has been read so far, apart from places in the text. -/
structure Progress.Holds (progress : Progress) (mode : Mode) (field : List Char)
    (fields : List String) (records : List (List String)) : Prop where
  mode_eq : progress.mode = mode
  field_eq : progress.field = field
  fields_eq : progress.fields = fields
  records_eq : progress.records.map Record.fields = records

namespace Progress

variable {progress : Progress} {field : List Char} {fields : List String}
  {records : List (List String)}

theorem Holds.plain (holds : progress.Holds .plain field fields records) {text : List Char}
    (free : text.any forcesQuotes = false) :
    (text.foldl step progress).Holds .plain (text.reverse ++ field) fields records := by
  induction text generalizing progress field with
  | nil => simpa using holds
  | cons c rest ih =>
    simp only [List.any_cons, Bool.or_eq_false_iff] at free
    obtain ⟨head, tail⟩ := free
    simp only [forcesQuotes, Bool.or_eq_false_iff, decide_eq_false_iff_not] at head
    have next : (progress.step c).Holds .plain (c :: field) fields records := by
      obtain ⟨mode_eq, field_eq, fields_eq, records_eq⟩ := holds
      constructor <;> simp [step, takePlain, isLineEnd, push, *]
    simpa using ih next tail

theorem Holds.quoted (holds : progress.Holds .quoted field fields records) (text : List Char) :
    ((text.flatMap WrittenField.double).foldl step progress).Holds .quoted (text.reverse ++ field)
      fields records := by
  induction text generalizing progress field with
  | nil => simpa using holds
  | cons c rest ih =>
    have next : ((WrittenField.double c).foldl step progress).Holds .quoted (c :: field) fields
        records := by
      obtain ⟨mode_eq, field_eq, fields_eq, records_eq⟩ := holds
      by_cases quote : c = '"' <;>
        constructor <;> simp [WrittenField.double, step, *]
    simpa using ih next
theorem Holds.closeQuote (holds : progress.Holds .quoted field fields records) :
    (progress.step '"').Holds .quote field fields records := by
  obtain ⟨mode_eq, field_eq, fields_eq, records_eq⟩ := holds
  constructor <;> simp [step, *]

/-- Outside quotes a comma ends the field. -/
theorem Holds.comma {mode : Mode} (holds : progress.Holds mode field fields records)
    (outside : mode ≠ .quoted) :
    (progress.step ',').Holds .fieldStart [] (String.ofList field.reverse :: fields) records := by
  obtain ⟨mode_eq, field_eq, fields_eq, records_eq⟩ := holds
  cases mode with
  | quoted => exact absurd rfl outside
  | _ => constructor <;> simp [step, takeFirst, takePlain, endField, isLineEnd, *]

/-- Outside quotes, and behind the start of a record, the end of a line ends the record. -/
theorem Holds.lineEnd {mode : Mode} (holds : progress.Holds mode field fields records)
    (outside : mode ≠ .quoted) (behind : mode ≠ .recordStart) (lineEnd : LineEnd) :
    (lineEnd.spelling.foldl step progress).Holds .recordStart [] []
      ((String.ofList field.reverse :: fields).reverse :: records) := by
  obtain ⟨mode_eq, field_eq, fields_eq, records_eq⟩ := holds
  cases mode with
  | quoted => exact absurd rfl outside
  | recordStart => exact absurd rfl behind
  | _ =>
    cases lineEnd <;>
      constructor <;>
        simp [LineEnd.spelling, step, takeFirst, takePlain, endRecord, endField, isLineEnd, *]

/-- At the start of a record the ends of lines change nothing. -/
theorem Holds.blankLines (holds : progress.Holds .recordStart [] [] records)
    (blankLines : List LineEnd) :
    ((blankLines.flatMap LineEnd.spelling).foldl step progress).Holds .recordStart [] []
      records := by
  induction blankLines generalizing progress with
  | nil => exact holds
  | cons lineEnd rest ih =>
    have next : (lineEnd.spelling.foldl step progress).Holds .recordStart [] [] records := by
      obtain ⟨mode_eq, field_eq, fields_eq, records_eq⟩ := holds
      cases lineEnd <;> constructor <;> simp [LineEnd.spelling, step, isLineEnd, *]
    simpa using ih next

/-- A field is read up to its end. Where nothing is written, nothing is read. -/
theorem Holds.written {start : Mode} (holds : progress.Holds start [] fields records)
    (fresh : start = .recordStart ∨ start = .fieldStart) (field : WrittenField) :
    ∃ mode, mode ≠ .quoted ∧ (mode = .recordStart → start = .recordStart ∧ field.spelling = []) ∧
      (field.spelling.foldl step progress).Holds mode field.text.toList.reverse fields records := by
  obtain ⟨text, quoted, forced⟩ := field
  cases quoted with
  | true =>
    refine ⟨.quote, by simp, by simp, ?_⟩
    have opened : (progress.step '"').Holds .quoted [] fields records := by
      obtain ⟨mode_eq, field_eq, fields_eq, records_eq⟩ := holds
      rcases fresh with rfl | rfl <;>
        constructor <;> simp [step, takeFirst, isLineEnd, *]
    simpa [WrittenField.spelling] using (opened.quoted text.toList).closeQuote
  | false =>
    have free : text.toList.any forcesQuotes = false := by
      cases any : text.toList.any forcesQuotes with
      | false => rfl
      | true => simpa using forced any
    simp only [WrittenField.spelling, Bool.false_eq_true, ↓reduceIte]
    cases chars : text.toList with
    | nil =>
      refine ⟨start, ?_, fun same => ⟨same, rfl⟩, by simpa using holds⟩
      rcases fresh with rfl | rfl <;> simp
    | cons c rest =>
      rw [chars] at free
      refine ⟨.plain, by simp, by simp, ?_⟩
      simp only [List.any_cons, Bool.or_eq_false_iff] at free
      obtain ⟨head, tail⟩ := free
      simp only [forcesQuotes, Bool.or_eq_false_iff, decide_eq_false_iff_not] at head
      have next : (progress.step c).Holds .plain [c] fields records := by
        obtain ⟨mode_eq, field_eq, fields_eq, records_eq⟩ := holds
        rcases fresh with rfl | rfl <;>
          constructor <;> simp [step, takeFirst, takePlain, isLineEnd, push, *]
      simpa using next.plain tail

theorem Holds.writtenFields {start : Mode} (holds : progress.Holds start [] fields records)
    (fresh : start = .recordStart ∨ start = .fieldStart) {written : List WrittenField}
    (ne_nil : written ≠ []) (visible : start = .recordStart → WrittenRecord.spellFields written ≠ [])
    (lineEnd : LineEnd) :
    ((WrittenRecord.spellFields written ++ lineEnd.spelling).foldl step progress).Holds
      .recordStart [] [] ((fields.reverse ++ written.map WrittenField.text) :: records) := by
  induction written generalizing progress start fields with
  | nil => exact absurd rfl ne_nil
  | cons field rest ih =>
    obtain ⟨mode, outside, silent, read⟩ := holds.written fresh field
    cases rest with
    | nil =>
      have behind : mode ≠ .recordStart := fun same =>
        visible (silent same).1 (silent same).2
      simpa [WrittenRecord.spellFields] using read.lineEnd outside behind lineEnd
    | cons other others =>
      have next := ih (read.comma outside) (.inr rfl) (by simp) (by simp)
      simpa [WrittenRecord.spellFields] using next

theorem Holds.writtenRecord (holds : progress.Holds .recordStart [] [] records)
    (record : WrittenRecord) :
    (record.spelling.foldl step progress).Holds .recordStart [] []
      (if record.isBlank then records else record.texts :: records) := by
  obtain ⟨blankLines, written, lineEnd⟩ := record
  have clear := holds.blankLines blankLines
  simp only [WrittenRecord.spelling, WrittenRecord.isBlank, WrittenRecord.texts,
    List.foldl_append] at clear ⊢
  by_cases blank : WrittenRecord.spellFields written = []
  · simpa [blank] using clear.blankLines [lineEnd]
  · have ne_nil : written ≠ [] := by
      rintro rfl
      exact blank rfl
    simpa [blank] using clear.writtenFields (.inl rfl) ne_nil (fun _ => blank) lineEnd

theorem Holds.writtenRecords (holds : progress.Holds .recordStart [] [] records)
    (written : List WrittenRecord) :
    ((written.flatMap WrittenRecord.spelling).foldl step progress).Holds .recordStart [] []
      (((written.filter (!·.isBlank)).map WrittenRecord.texts).reverse ++ records) := by
  induction written generalizing progress records with
  | nil => simpa using holds
  | cons record rest ih =>
    have next := ih (holds.writtenRecord record)
    cases blank : record.isBlank <;> simpa [blank] using next

end Progress

/-- Reading finds the records that were written, less the blank ones. A byte order mark at the start
would be taken for one, so the text must not start with it. -/
theorem map_fields_records {text : String} {written : List WrittenRecord}
    {blankLines : List LineEnd} (spelled : text.toList = spell written blankLines)
    (unmarked : text.toList.head? ≠ some byteOrderMark) :
    (records text).map Record.fields =
      (written.filter (!·.isBlank)).map WrittenRecord.texts := by
  have origin : (Progress.atStart ⟨0, 1⟩).Holds .recordStart [] [] [] := ⟨rfl, rfl, rfl, rfl⟩
  have read := (origin.writtenRecords written).blankLines blankLines
  rw [← List.foldl_append] at read
  have whole : records text = (text.toList.foldl Progress.step (.atStart ⟨0, 1⟩)).finish := by
    simp only [records]
    split
    · rename_i empty
      simp [empty, Progress.finish, Progress.atStart]
    · rename_i c rest chars
      have other : c ≠ byteOrderMark := by simpa [chars] using unmarked
      simp [other, chars]
  rw [whole, spelled, spell, Progress.finish, read.mode_eq, List.map_reverse, read.records_eq]
  simp

end Forklift.Csv
