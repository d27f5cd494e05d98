import Forklift.Inventory.FileTree
import Forklift.Proofs.Inventory.Retries
import Forklift.Proofs.Inventory.Shape

/-! # Imported inventories

What a text is imported as is the inventory of a value, whatever its format. So all fields of an imported
forklift are filled, and a text that is refused is refused for good: reading its file once is enough. Only
a file that holds no text is taken for one that could not be read, and so it is read as often as the
settings allow.
-/

namespace Forklift

/-- Whether every field has a text. -/
def Equipment.IsFilled (equipment : Equipment) : Prop :=
  equipment.name ≠ "" ∧ equipment.modelNumber ≠ "" ∧ equipment.manufacturingDate ≠ ""

/-- Whether an error tells what is wrong with data that has been read. -/
def InventoryError.isAboutData : InventoryError → Bool
  | invalidJson | invalidCsv _ | notAnArray | notAnObject _ | missingField _ _ => true
  | _ => false

/-- Malformed data is permanent. -/
theorem InventoryError.retryable_of_isAboutData {error : InventoryError}
    (data : error.isAboutData = true) : error.retryable = false := by
  cases error <;> first | rfl | cases data

theorem Inventory.Refused.isAboutData {value : Json} {error : InventoryError}
    (refused : Refused value error) : error.isAboutData = true := by
  cases refused with
  | notAnArray => rfl
  | fault _ faulty => cases faulty <;> rfl

namespace ImportFormat

variable {format : ImportFormat} {text : String}

/-- A text is imported as the inventory of a value, or its format refuses it for what is wrong with it. -/
theorem load_cases (format : ImportFormat) (text : String) :
    (∃ value, format.load text = Inventory.normalize value) ∨
      ∃ error, format.load text = .error error ∧ error.isAboutData = true := by
  cases format with
  | json =>
    rw [load_json, Inventory.ofJsonText]
    cases Json.ofText? text with
    | none => exact .inr ⟨.invalidJson, rfl, rfl⟩
    | some value => exact .inl ⟨value, rfl⟩
  | csv =>
    rw [load_csv, Inventory.ofCsvText]
    cases Csv.Table.ofText text with
    | error ragged => exact .inr ⟨.invalidCsv ragged, rfl, rfl⟩
    | ok table => exact .inl ⟨Inventory.tableItems table, rfl⟩

/-- The forklifts of an imported text have all fields. -/
theorem isFilled_of_load {inventory : Inventory} (loaded : format.load text = .ok inventory) :
    ∀ equipment ∈ inventory, equipment.IsFilled := by
  obtain ⟨value, normalized⟩ | ⟨error, refused, -⟩ := format.load_cases text
  · rw [normalized] at loaded
    obtain ⟨items, -, described⟩ := Inventory.normalize_eq_ok_iff.mp loaded
    intro equipment member
    obtain ⟨item, describes⟩ := (Inventory.mem_of_described described).2 equipment member
    exact describes.fields_ne_empty
  · rw [refused] at loaded
    cases loaded

/-- A text is refused for what is wrong with it. -/
theorem isAboutData_of_load {error : InventoryError} (refused : format.load text = .error error) :
    error.isAboutData = true := by
  obtain ⟨value, normalized⟩ | ⟨other, refusedFor, data⟩ := format.load_cases text
  · rw [normalized] at refused
    exact (Inventory.normalize_eq_error_iff.mp refused).isAboutData
  · rw [refusedFor] at refused
    cases refused
    exact data

end ImportFormat

namespace Inventory

/-- Whether a path leads to a file that may be imported in a format, and what the file holds. -/
structure Holds (files : FileView) (path : String) (format : ImportFormat) (content : ByteArray) :
    Prop where
  size : files.size path = .ok content.size
  checked : checkFile (String.ofList ((Path.fileName? path).getD [])) content.size = .ok format
  content : files.content path = .ok content

variable {files : FileView} {path : String} {format : ImportFormat} {content : ByteArray}

/-- What is read behind the check of a file is imported as it is in the format of the file. -/
theorem importFile_of_read {size : Nat} (reached : files.size path = .ok size)
    (checked : checkFile (String.ofList ((Path.fileName? path).getD [])) size = .ok format)
    (read : files.content path = .ok content) :
    importFile files path =
      match String.fromUTF8? content with
      | some text => format.load text
      | none => .error (.io path notUtf8) := by
  rw [importFile, reached, read]
  change (checkFile _ size).bind _ = _
  rw [checked]
  rfl

/-- The bytes of a file decide what is imported, apart from where a failure is reported. -/
theorem importFile_of_holds (holds : Holds files path format content) :
    importFile files path =
      match String.fromUTF8? content with
      | some text => format.load text
      | none => .error (.io path notUtf8) :=
  importFile_of_read holds.size holds.checked holds.content

end Inventory

/-! ## Files as sources -/

/-- Reading a file leaves it as it is. -/
theorem Source.after_ofFile (files : FileView) (path : String) (n : Nat) :
    (Source.ofFile path).after files n = files := by
  induction n with
  | zero => rfl
  | succ n ih =>
    rw [Source.after_succ, ih]
    rfl

theorem Source.outcome_ofFile (files : FileView) (path : String) (n : Nat) :
    (Source.ofFile path).outcome files n = Inventory.importFile files path := by
  rw [Source.outcome, Source.after_ofFile]
  rfl

namespace RetryPolicy

variable {policy : RetryPolicy} {files : FileView} {path : String} {error : InventoryError}

/-- A file that fails for good is read once. -/
theorem fetch_ofFile_of_permanent (allowed : 1 ≤ policy.maxAttempts)
    (failed : Inventory.importFile files path = .error error)
    (permanent : error.retryable = false) :
    policy.fetch (Source.ofFile path) files = ⟨.error error, files, 1, []⟩ := by
  have final : ((Source.ofFile path).outcome files 0).isFinal = true := by
    rw [Source.outcome_ofFile, failed, Outcome.isFinal, permanent]
    rfl
  have earlier : ∀ i < 0, ((Source.ofFile path).outcome files i).isFinal = false :=
    fun i before => absurd before i.not_lt_zero
  rw [policy.fetch_of_final (Source.ofFile path) allowed final earlier, Source.outcome_ofFile, failed]
  rfl

/-- A file that fails for now is read as often as is allowed. -/
theorem fetch_ofFile_of_retryable (allowed : 1 ≤ policy.maxAttempts)
    (failed : Inventory.importFile files path = .error error)
    (retryable : error.retryable = true) :
    policy.fetch (Source.ofFile path) files =
      ⟨.error (.retriesExhausted policy.maxAttempts error), files, policy.maxAttempts,
        (List.range (policy.maxAttempts - 1)).map policy.delay⟩ := by
  obtain ⟨last, settings⟩ := Nat.exists_eq_add_of_le' allowed
  have further : ∀ i ≤ last, ((Source.ofFile path).outcome files i).isFinal = false := by
    intro i _
    rw [Source.outcome_ofFile, failed, Outcome.isFinal, retryable]
    rfl
  obtain ⟨reported, yields, -, run⟩ :=
    policy.fetch_of_not_final (Source.ofFile path) settings further
  rw [Source.outcome_ofFile, failed] at yields
  obtain rfl := Except.error.inj yields
  rw [run, Source.after_ofFile, settings, Nat.add_sub_cancel]

/-- A file whose bytes are refused is read once if they are a text: the fault of the text is returned
as it is. If they are no text, the file is read as often as is allowed, as one that cannot be read. -/
theorem fetch_refused_file {format : ImportFormat} {content : ByteArray}
    (holds : Inventory.Holds files path format content) (allowed : 1 ≤ policy.maxAttempts)
    (refused : Inventory.importFile files path = .error error) :
    let run := policy.fetch (Source.ofFile path) files
    (∀ text, String.fromUTF8? content = some text →
      format.load text = .error error ∧ error.isAboutData = true ∧ error.retryable = false ∧
        run.result = .error error ∧ run.fetches = 1) ∧
    (String.fromUTF8? content = none →
      error = .io path Inventory.notUtf8 ∧
        run.result = .error (.retriesExhausted policy.maxAttempts error) ∧
        run.fetches = policy.maxAttempts) := by
  intro run
  have decided := Inventory.importFile_of_holds holds
  rw [refused] at decided
  constructor
  · intro text decoded
    have faulty : format.load text = .error error := by
      simpa only [decoded] using decided.symm
    have data := ImportFormat.isAboutData_of_load faulty
    have permanent := InventoryError.retryable_of_isAboutData data
    have ended : run = ⟨.error error, files, 1, []⟩ :=
      fetch_ofFile_of_permanent allowed refused permanent
    rw [ended]
    exact ⟨faulty, data, permanent, rfl, rfl⟩
  · intro undecoded
    have unread : error = .io path Inventory.notUtf8 := by
      simpa only [undecoded, Except.error.injEq] using decided
    have retryable : error.retryable = true := by
      rw [unread]
      rfl
    have ended : run = ⟨.error (.retriesExhausted policy.maxAttempts error), files,
        policy.maxAttempts, (List.range (policy.maxAttempts - 1)).map policy.delay⟩ :=
      fetch_ofFile_of_retryable allowed refused retryable
    rw [ended]
    exact ⟨unread, rfl, rfl⟩

/-- A table without a model number is read once, though three attempts are allowed. -/
theorem fetch_refused_file_of_table :
    let content := "name,modelNumber,manufacturingDate\nA,,2020\n".toUTF8
    let files := (FileTree.empty.insert "fleet.csv" (.file content)).view
    let run := (immediate 3).fetch (Source.ofFile "fleet.csv") files
    run.result = .error (.missingField 1 .modelNumber) ∧ run.fetches = 1 := by
  intro content files run
  have holds : Inventory.Holds files "fleet.csv" .csv content :=
    ⟨by decide +kernel, by decide +kernel, by decide +kernel⟩
  have refused : Inventory.importFile files "fleet.csv" =
      .error (.missingField 1 .modelNumber) := by
    decide +kernel
  have decoded : String.fromUTF8? content =
      some "name,modelNumber,manufacturingDate\nA,,2020\n" := by
    decide +kernel
  have allowed : 1 ≤ (immediate 3).maxAttempts := by decide
  obtain ⟨-, -, -, result, fetches⟩ := (fetch_refused_file holds allowed refused).1 _ decoded
  exact ⟨result, fetches⟩

/-- A file of one byte that is no text is read three times where three attempts are allowed, and what is
returned tells of the attempts. -/
theorem fetch_file_without_text :
    let files := (FileTree.empty.insert "fleet.json" (.file ⟨#[0xff]⟩)).view
    let run := (immediate 3).fetch (Source.ofFile "fleet.json") files
    let error := InventoryError.io "fleet.json" Inventory.notUtf8
    Inventory.Holds files "fleet.json" .json ⟨#[0xff]⟩ ∧
      Inventory.importFile files "fleet.json" = .error error ∧ error.retryable = true ∧
      run.result = .error (.retriesExhausted 3 error) ∧ run.fetches = 3 := by
  refine ⟨⟨?_, ?_, ?_⟩, ?_, ?_, ?_, ?_⟩ <;> decide +kernel

end RetryPolicy

end Forklift
