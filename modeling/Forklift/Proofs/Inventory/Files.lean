import Forklift.Proofs.Inventory.Imports
import Forklift.Proofs.Inventory.Names

/-! # Imported files

What is imported from a path is decided in turns, and what a later turn would say does not matter: by
whether the path leads to anything, by the size, by the extension of the last part of the path, by whether
the content is a text, and by the text. The last part alone is checked as the whole path is.
-/

namespace Forklift

/-- Whether an error tells what is wrong with the size or the name of a file. -/
def InventoryError.isAboutFile : InventoryError → Bool
  | fileTooLarge _ _ | unsupportedFormat _ => true
  | _ => false

/-- What is wrong with data is not wrong with the size or the name of the file. -/
theorem InventoryError.isAboutFile_eq_false {error : InventoryError} (data : error.isAboutData = true) :
    error.isAboutFile = false := by
  cases error <;> first | rfl | cases data

namespace ImportFormat

/-- The extension that stands for a format. -/
def suffix : ImportFormat → List Char
  | json => ['j', 's', 'o', 'n']
  | csv => ['c', 's', 'v']

/-- Whether the last part of a path has the extension of a format, in small letters or in capitals. -/
def IsNamedBy (format : ImportFormat) (path : String) : Prop :=
  ∃ extension, Path.HasExtension path extension ∧ SpellsInAnyCase format.suffix extension

theorem isLower_of_mem_suffix (format : ImportFormat) :
    ∀ letter ∈ format.suffix, letter.isLower = true := by
  rw [← List.all_eq_true]
  cases format <;> rfl

theorem suffix_ne_nil (format : ImportFormat) : format.suffix ≠ [] := by
  cases format <;> exact List.cons_ne_nil _ _

/-- A path names a format where the extension that it shows stands for the format. -/
theorem isNamedBy_iff {format : ImportFormat} {path : String} :
    format.IsNamedBy path ↔ Path.shownExtension path = format.suffix := by
  constructor
  · rintro ⟨extension, ending, spelled⟩
    rw [Path.shownExtension_of_hasExtension ending,
      map_toLower_eq_iff format.isLower_of_mem_suffix]
    exact spelled
  · intro shown
    by_cases ending : ∃ extension, Path.HasExtension path extension
    · obtain ⟨extension, ending⟩ := ending
      rw [Path.shownExtension_of_hasExtension ending,
        map_toLower_eq_iff format.isLower_of_mem_suffix] at shown
      exact ⟨extension, ending, shown⟩
    · rw [Path.shownExtension_of_not_hasExtension (not_exists.1 ending)] at shown
      exact absurd shown.symm format.suffix_ne_nil

/-- The directories in front of a path do not matter to the format that it names. -/
theorem isNamedBy_in_directory (format : ImportFormat) (parents : String) {path : String}
    {name : List Char} (last : Path.IsLastPart path.toList name) :
    format.IsNamedBy (parents ++ "/" ++ path) ↔ format.IsNamedBy path := by
  simp only [IsNamedBy, Path.hasExtension_in_directory parents last]

end ImportFormat

namespace Inventory

/-! ## Sizes and names -/

section Checks

variable {name : String} {size : Nat}

theorem checkFile_of_large (large : maxImportBytes < size) :
    checkFile name size = .error (.fileTooLarge size maxImportBytes) := by
  rw [checkFile, if_pos large]

theorem checkFile_of_named (small : size ≤ maxImportBytes) {format : ImportFormat}
    (named : format.IsNamedBy name) : checkFile name size = .ok format := by
  rw [ImportFormat.isNamedBy_iff, Path.shownExtension] at named
  rw [checkFile, if_neg (Nat.not_lt.2 small), named]
  cases format <;> rfl

theorem checkFile_of_unnamed (small : size ≤ maxImportBytes)
    (unnamed : ∀ format : ImportFormat, ¬ format.IsNamedBy name) :
    checkFile name size =
      .error (.unsupportedFormat (String.ofList (Path.shownExtension name))) := by
  rw [checkFile, if_neg (Nat.not_lt.2 small), ← Path.shownExtension]
  split
  · rename_i json
    exact absurd (ImportFormat.isNamedBy_iff.2 json) (unnamed .json)
  · rename_i csv
    exact absurd (ImportFormat.isNamedBy_iff.2 csv) (unnamed .csv)
  · rfl

/-- A file is too large, or its name is of no format, or it may be imported. -/
theorem checkFile_cases (name : String) (size : Nat) :
    (maxImportBytes < size ∧
      checkFile name size = .error (.fileTooLarge size maxImportBytes)) ∨
    (size ≤ maxImportBytes ∧ (∀ format : ImportFormat, ¬ format.IsNamedBy name) ∧
      checkFile name size =
        .error (.unsupportedFormat (String.ofList (Path.shownExtension name)))) ∨
    ∃ format : ImportFormat, size ≤ maxImportBytes ∧ format.IsNamedBy name ∧
      checkFile name size = .ok format := by
  rcases Nat.lt_or_ge maxImportBytes size with large | small
  · exact .inl ⟨large, checkFile_of_large large⟩
  · by_cases named : ∃ format : ImportFormat, format.IsNamedBy name
    · obtain ⟨format, named⟩ := named
      exact .inr (.inr ⟨format, small, named, checkFile_of_named small named⟩)
    · have unnamed := not_exists.1 named
      exact .inr (.inl ⟨small, unnamed, checkFile_of_unnamed small unnamed⟩)

theorem checkFile_eq_ok_iff {format : ImportFormat} :
    checkFile name size = .ok format ↔ size ≤ maxImportBytes ∧ format.IsNamedBy name := by
  constructor
  · intro checked
    obtain ⟨-, refused⟩ | ⟨-, -, refused⟩ | ⟨another, small, named, also⟩ := checkFile_cases name size
    · rw [refused] at checked
      cases checked
    · rw [refused] at checked
      cases checked
    · rw [also] at checked
      cases checked
      exact ⟨small, named⟩
  · rintro ⟨small, named⟩
    exact checkFile_of_named small named

theorem checkFile_eq_fileTooLarge_iff {found limit : Nat} :
    checkFile name size = .error (.fileTooLarge found limit) ↔
      maxImportBytes < size ∧ found = size ∧ limit = maxImportBytes := by
  constructor
  · intro refused
    obtain ⟨large, first⟩ | ⟨-, -, second⟩ | ⟨format, -, -, checked⟩ := checkFile_cases name size
    · rw [first] at refused
      cases refused
      exact ⟨large, rfl, rfl⟩
    · rw [second] at refused
      cases refused
    · rw [checked] at refused
      cases refused
  · rintro ⟨large, rfl, rfl⟩
    exact checkFile_of_large large

theorem checkFile_eq_unsupportedFormat_iff {shown : String} :
    checkFile name size = .error (.unsupportedFormat shown) ↔
      size ≤ maxImportBytes ∧ (∀ format : ImportFormat, ¬ format.IsNamedBy name) ∧
        shown = String.ofList (Path.shownExtension name) := by
  constructor
  · intro refused
    obtain ⟨-, first⟩ | ⟨small, unnamed, second⟩ | ⟨format, -, -, checked⟩ :=
      checkFile_cases name size
    · rw [first] at refused
      cases refused
    · rw [second] at refused
      cases refused
      exact ⟨small, unnamed, rfl⟩
    · rw [checked] at refused
      cases refused
  · rintro ⟨small, unnamed, rfl⟩
    exact checkFile_of_unnamed small unnamed

/-- A file that may not be imported is refused for its size or for its name. -/
theorem isAboutFile_of_checkFile {error : InventoryError} (refused : checkFile name size = .error error) :
    error.isAboutFile = true := by
  obtain ⟨-, first⟩ | ⟨-, -, second⟩ | ⟨format, -, -, checked⟩ := checkFile_cases name size
  · rw [first] at refused
    cases refused
    rfl
  · rw [second] at refused
    cases refused
    rfl
  · rw [checked] at refused
    cases refused

/-- The last part of a path is checked as the path is. -/
theorem checkFile_of_isLastPart {path : String} {part : List Char}
    (last : Path.IsLastPart path.toList part) :
    checkFile (String.ofList part) size = checkFile path size := by
  rw [checkFile, checkFile, Path.extension?_of_isLastPart last]

/-- A path without a last part is checked as no name is. -/
theorem checkFile_of_not_isLastPart {path : String}
    (empty : ∀ part, ¬ Path.IsLastPart path.toList part) :
    checkFile "" size = checkFile path size := by
  rw [checkFile, checkFile, Path.extension?_of_not_isLastPart empty]
  rfl

/-- The file name of a path is checked as the path is. -/
theorem checkFile_fileName (path : String) :
    checkFile (String.ofList ((Path.fileName? path).getD [])) size = checkFile path size := by
  rw [checkFile, checkFile, Path.extension?_fileName]

end Checks

/-! ## Contents -/

theorem fromUTF8?_toUTF8 (text : String) : String.fromUTF8? text.toUTF8 = some text := by
  have valid : text.toUTF8.IsValidUTF8 := text.isValidUTF8
  rw [String.fromUTF8?, dif_pos valid]
  rfl

theorem fromUTF8?_eq_none {content : ByteArray} (undecodable : ∀ text : String, content ≠ text.toUTF8) :
    String.fromUTF8? content = none := by
  rw [String.fromUTF8?, dif_neg]
  intro valid
  exact undecodable (String.fromUTF8 content valid) rfl

section Turns

variable {files : FileView} {path : String} {size : Nat} {said : String}

theorem importFile_of_unreached (unreached : files.size path = .error said) :
    importFile files path = .error (.io path said) := by
  rw [importFile, unreached]
  rfl

theorem importFile_of_refused {error : InventoryError} (reached : files.size path = .ok size)
    (refused : checkFile path size = .error error) : importFile files path = .error error := by
  rw [importFile, reached]
  change (checkFile _ size).bind _ = _
  rw [checkFile_fileName, refused]
  rfl

section Checked

variable {format : ImportFormat} (reached : files.size path = .ok size)
  (checked : checkFile path size = .ok format)
include reached checked

theorem importFile_of_unread (unread : files.content path = .error said) :
    importFile files path = .error (.io path said) := by
  rw [importFile, reached, unread]
  change (checkFile _ size).bind _ = _
  rw [checkFile_fileName, checked]
  rfl

/-- What is refused behind the check of a file is not refused for its size or its name. -/
theorem isAboutFile_of_importFile {error : InventoryError}
    (refused : importFile files path = .error error) : error.isAboutFile = false := by
  cases read : files.content path with
  | error said =>
    rw [importFile_of_unread reached checked read] at refused
    cases refused
    rfl
  | ok content =>
    rw [importFile_of_read reached ((checkFile_fileName path).trans checked) read] at refused
    split at refused
    · exact InventoryError.isAboutFile_eq_false (ImportFormat.isAboutData_of_load refused)
    · cases refused
      rfl

end Checked

/-- A file is refused for its size or its name exactly as the check refuses it. -/
theorem checkFile_eq_error_iff (reached : files.size path = .ok size) {error : InventoryError} :
    checkFile path size = .error error ↔
      importFile files path = .error error ∧ error.isAboutFile = true := by
  constructor
  · intro refused
    exact ⟨importFile_of_refused reached refused, isAboutFile_of_checkFile refused⟩
  · rintro ⟨refused, fault⟩
    cases check : checkFile path size with
    | error other =>
      rw [importFile_of_refused reached check] at refused
      rw [Except.error.inj refused]
    | ok format =>
      rw [isAboutFile_of_importFile reached check refused] at fault
      cases fault

theorem importFile_eq_fileTooLarge_iff (reached : files.size path = .ok size) {found limit : Nat} :
    importFile files path = .error (.fileTooLarge found limit) ↔
      maxImportBytes < size ∧ found = size ∧ limit = maxImportBytes := by
  rw [← checkFile_eq_fileTooLarge_iff, checkFile_eq_error_iff reached]
  exact (and_iff_left rfl).symm

theorem importFile_eq_unsupportedFormat_iff (reached : files.size path = .ok size) {shown : String} :
    importFile files path = .error (.unsupportedFormat shown) ↔
      size ≤ maxImportBytes ∧ (∀ format : ImportFormat, ¬ format.IsNamedBy path) ∧
        shown = String.ofList (Path.shownExtension path) := by
  rw [← checkFile_eq_unsupportedFormat_iff, checkFile_eq_error_iff reached]
  exact (and_iff_left rfl).symm

end Turns

/-- What is imported from a path is decided by the first of these that is so. A path that leads to nothing
cannot be read. A file of more than five mebibytes is too large, whatever its name and its content. A file
whose last part has another extension than those of the formats, in whatever case, is of no format,
whatever its content. A content that is not there or is no text cannot be read. Any other is imported as
its text is in the format. The last part alone, or nothing where there is none, is checked as the path is,
and no directory in front of a path matters to the format. -/
theorem importFile_decides (files : FileView) (path : String) :
    (∀ said, files.size path = .error said → importFile files path = .error (.io path said)) ∧
    (∀ size, files.size path = .ok size →
      (∀ found limit, importFile files path = .error (.fileTooLarge found limit) ↔
        5 * 1024 * 1024 < size ∧ found = size ∧ limit = 5 * 1024 * 1024) ∧
      (∀ shown, importFile files path = .error (.unsupportedFormat shown) ↔
        size ≤ 5 * 1024 * 1024 ∧ (∀ format : ImportFormat, ¬ format.IsNamedBy path) ∧
          shown = String.ofList (Path.shownExtension path)) ∧
      (∀ format : ImportFormat, size ≤ 5 * 1024 * 1024 → format.IsNamedBy path →
        (∀ said, files.content path = .error said →
          importFile files path = .error (.io path said)) ∧
        ∀ content, files.content path = .ok content →
          (∀ text : String, content = text.toUTF8 → importFile files path =
            match format with
            | .json => ofJsonText text
            | .csv => ofCsvText text) ∧
          ((∀ text : String, content ≠ text.toUTF8) →
            importFile files path = .error (.io path notUtf8))) ∧
      ∀ name : String,
        (Path.IsLastPart path.toList name.toList ∨
          name = "" ∧ ∀ part, ¬ Path.IsLastPart path.toList part) →
        (∀ error, checkFile name size = .error error ↔
          importFile files path = .error error ∧ error.isAboutFile = true) ∧
        ∀ format, checkFile name size = .ok format ↔
          size ≤ 5 * 1024 * 1024 ∧ format.IsNamedBy path) ∧
    ∀ (format : ImportFormat) (parents : String) (part : List Char),
      Path.IsLastPart path.toList part →
      (format.IsNamedBy (parents ++ "/" ++ path) ↔ format.IsNamedBy path) := by
  refine ⟨fun said => importFile_of_unreached, ?_,
    fun format parents part last => format.isNamedBy_in_directory parents last⟩
  intro size reached
  refine ⟨fun found limit => importFile_eq_fileTooLarge_iff reached,
    fun shown => importFile_eq_unsupportedFormat_iff reached, ?_, ?_⟩
  · intro format small named
    have checked := checkFile_of_named small named
    refine ⟨fun said => importFile_of_unread reached checked, ?_⟩
    intro content read
    rw [importFile_of_read reached ((checkFile_fileName path).trans checked) read]
    constructor
    · rintro text rfl
      rw [fromUTF8?_toUTF8]
      cases format with
      | json => exact ImportFormat.load_json text
      | csv => exact ImportFormat.load_csv text
    · intro undecodable
      rw [fromUTF8?_eq_none undecodable]
  · intro name final
    have same : checkFile name size = checkFile path size := by
      rcases final with last | ⟨rfl, empty⟩
      · rw [← checkFile_of_isLastPart last, String.ofList_toList]
      · exact checkFile_of_not_isLastPart empty
    rw [same]
    exact ⟨fun error => checkFile_eq_error_iff reached, fun format => checkFile_eq_ok_iff⟩

/-- A directory may have a name of a format; the files in it are of the formats that their own names
show. The directory itself has no content, and what is not there cannot be read. Under a name that starts
with its only dot, a file of the largest size is of no format, and a file with one byte more is too large. -/
theorem importFile_decides_by_the_last_part :
    let text := "name,modelNumber,manufacturingDate\nA,M-1,2020\n"
    let files := (FileTree.empty.insert "v1.json/fleet.2.Csv" (.file text.toUTF8)).view
    let sized (size : Nat) : FileView := ⟨fun _ => .ok size, fun _ => .error "gone"⟩
    importFile files "./v1.json/fleet.2.Csv" = .ok [⟨"A", "M-1", "2020"⟩] ∧
    importFile files "v1.json/." = .error (.io "v1.json/." "Is a directory (os error 21)") ∧
    importFile files "v2.json" =
      .error (.io "v2.json" "No such file or directory (os error 2)") ∧
    importFile (sized (5 * 1024 * 1024)) ".json" = .error (.unsupportedFormat "") ∧
    importFile (sized (5 * 1024 * 1024 + 1)) ".json" =
      .error (.fileTooLarge (5 * 1024 * 1024 + 1) (5 * 1024 * 1024)) := by
  intro text files sized
  have reached : files.size "./v1.json/fleet.2.Csv" = .ok 46 := by decide +kernel
  have read : files.content "./v1.json/fleet.2.Csv" = .ok text.toUTF8 := by decide +kernel
  have named : ImportFormat.csv.IsNamedBy "./v1.json/fleet.2.Csv" :=
    ImportFormat.isNamedBy_iff.2 (by decide +kernel)
  have directory : files.size "v1.json/." = .ok 4096 := by decide +kernel
  have unread : files.content "v1.json/." = .error "Is a directory (os error 21)" := by
    decide +kernel
  have namedToo : ImportFormat.json.IsNamedBy "v1.json/." :=
    ImportFormat.isNamedBy_iff.2 (by decide +kernel)
  have unreached : files.size "v2.json" = .error "No such file or directory (os error 2)" := by
    decide +kernel
  have unnamed (format : ImportFormat) : ¬ format.IsNamedBy ".json" := by
    rw [ImportFormat.isNamedBy_iff]
    cases format <;> decide +kernel
  obtain ⟨-, checked, -⟩ := importFile_decides files "./v1.json/fleet.2.Csv"
  obtain ⟨-, checkedToo, -⟩ := importFile_decides files "v1.json/."
  obtain ⟨-, largest, -⟩ := importFile_decides (sized (5 * 1024 * 1024)) ".json"
  obtain ⟨-, larger, -⟩ := importFile_decides (sized (5 * 1024 * 1024 + 1)) ".json"
  refine ⟨?_, ?_, ?_, ?_, ?_⟩
  · obtain ⟨-, -, imported, -⟩ := checked 46 reached
    rw [((imported .csv (by decide) named).2 _ read).1 text rfl]
    decide +kernel
  · obtain ⟨-, -, imported, -⟩ := checkedToo 4096 directory
    exact (imported .json (by decide) namedToo).1 _ unread
  · exact (importFile_decides files "v2.json").1 _ unreached
  · obtain ⟨-, unsupported, -⟩ := largest _ rfl
    exact (unsupported "").2 ⟨le_rfl, unnamed, by decide +kernel⟩
  · obtain ⟨tooLarge, -⟩ := larger _ rfl
    exact (tooLarge _ _).2 ⟨by decide, rfl, rfl⟩

end Inventory

end Forklift
