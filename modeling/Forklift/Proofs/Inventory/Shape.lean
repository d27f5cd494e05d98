import Forklift.Inventory.Normalize
import Mathlib.Data.List.Forall2

/-! # The shape of an inventory

An inventory is an array of objects that hold all fields; what is refused is refused for its first
fault, in the order of the items and of the fields within an item. Both are told here without going
through the array. Only what an item holds under the keys of its fields matters, and null there is
as good as nothing.
-/

namespace Forklift

open Inventory

section FirstError

variable {α β ε : Type}

theorem bind_eq_ok_iff {read : Except ε α} {next : α → Except ε β} {output : β} :
    read >>= next = .ok output ↔ ∃ input, read = .ok input ∧ next input = .ok output := by
  cases read with
  | error error => exact iff_of_false nofun nofun
  | ok input => simp [bind, Except.bind]

theorem bind_eq_error_iff {read : Except ε α} {next : α → Except ε β} {error : ε} :
    read >>= next = .error error ↔
      read = .error error ∨ ∃ input, read = .ok input ∧ next input = .error error := by
  cases read with
  | error other => simp [bind, Except.bind]
  | ok input => simp [bind, Except.bind]

variable {f : α → Except ε β} {inputs : List α}

/-- A list is read where each of its inputs is. -/
theorem mapM_eq_ok_iff {outputs : List β} :
    inputs.mapM f = .ok outputs ↔
      List.Forall₂ (fun input output => f input = .ok output) inputs outputs := by
  induction inputs generalizing outputs with
  | nil =>
    rw [List.mapM_nil, List.forall₂_nil_left_iff]
    exact ⟨fun read => (Except.ok.inj read).symm, fun empty => congrArg Except.ok empty.symm⟩
  | cons input rest ih =>
    simp only [List.mapM_cons, List.forall₂_cons_left_iff, bind_eq_ok_iff, ih]
    constructor
    · rintro ⟨output, first, others, further, whole⟩
      exact ⟨output, others, first, further, (Except.ok.inj whole).symm⟩
    · rintro ⟨output, others, first, further, rfl⟩
      exact ⟨output, first, others, further, rfl⟩

/-- A list is read up to its first error. -/
theorem mapM_eq_error_iff {error : ε} :
    inputs.mapM f = .error error ↔ ∃ earlier input later, inputs = earlier ++ input :: later ∧
      (∀ other ∈ earlier, ∃ output, f other = .ok output) ∧ f input = .error error := by
  induction inputs with
  | nil =>
    rw [List.mapM_nil]
    exact iff_of_false nofun fun ⟨earlier, _, _, split, _⟩ => by cases earlier <;> cases split
  | cons input rest ih =>
    rw [List.mapM_cons, bind_eq_error_iff]
    simp only [bind_eq_error_iff, ih]
    constructor
    · rintro (failed | ⟨output, first, ⟨earlier, last, later, rfl, read, failed⟩ | ⟨_, _, whole⟩⟩)
      · exact ⟨[], input, rest, rfl, nofun, failed⟩
      · exact ⟨input :: earlier, last, later, rfl,
          List.forall_mem_cons.mpr ⟨⟨output, first⟩, read⟩, failed⟩
      · cases whole
    · rintro ⟨earlier, last, later, split, read, failed⟩
      cases earlier with
      | nil =>
        obtain ⟨rfl, -⟩ := List.cons.inj split
        exact .inl failed
      | cons head tail =>
        obtain ⟨rfl, rfl⟩ := List.cons.inj split
        obtain ⟨⟨output, first⟩, read⟩ := List.forall_mem_cons.mp read
        exact .inr ⟨output, first, .inl ⟨tail, last, later, rfl, read, failed⟩⟩

end FirstError

section Counted

variable {α : Type} {items : List α} {start : Nat}

theorem forall_mem_zipIdx_iff (property : α → Prop) :
    (∀ counted ∈ items.zipIdx start, property counted.1) ↔ ∀ item ∈ items, property item := by
  rw [← List.forall_mem_map, List.zipIdx_map_fst]

/-- What is counted has its number from its place. -/
theorem exists_of_zipIdx_eq {earlier later : List (α × Nat)} {counted : α × Nat}
    (split : items.zipIdx start = earlier ++ counted :: later) :
    ∃ before after, items = before ++ counted.1 :: after ∧ earlier = before.zipIdx start ∧
      counted.2 = start + before.length := by
  obtain ⟨before, rest, rfl, rfl, others⟩ := List.zipIdx_eq_append_iff.mp split
  obtain ⟨first, after, rfl, rfl, -⟩ := List.zipIdx_eq_cons_iff.mp others.symm
  exact ⟨before, after, rfl, rfl, rfl⟩

end Counted

namespace EquipmentField

/-- The fields in the order in which they are looked at. -/
def inOrder : List EquipmentField :=
  [name, modelNumber, manufacturingDate]

/-- An object gives a text for a field: a string that is not empty, under the canonical key, or under
the alternate one where the canonical key is absent or null. -/
def IsGiven (field : EquipmentField) (members : List (String × Json)) (text : String) : Prop :=
  text ≠ "" ∧
    (Json.member? field.key members = some (.string text) ∨
      (Json.member? field.key members = none ∨ Json.member? field.key members = some .null) ∧
        Json.member? field.alternateKey members = some (.string text))

/-- What an object holds under a key, unless it is null. -/
def held? (key : String) (members : List (String × Json)) : Option Json :=
  (Json.member? key members).filter (!·.isNull)

end EquipmentField

open EquipmentField

namespace Inventory

/-- An item describes a forklift by giving each of its fields. -/
def Describes (item : Json) (equipment : Equipment) : Prop :=
  ∃ members, item = .object members ∧
    EquipmentField.name.IsGiven members equipment.name ∧
    EquipmentField.modelNumber.IsGiven members equipment.modelNumber ∧
    EquipmentField.manufacturingDate.IsGiven members equipment.manufacturingDate

/-- Two items hold the same under the keys of the fields, and differ at most elsewhere. -/
def SameFields : Json → Json → Prop
  | .object members, .object others => ∀ field : EquipmentField,
      held? field.key members = held? field.key others ∧
        held? field.alternateKey members = held? field.alternateKey others
  | item, other => item = other

/-- What is wrong with the item at an index. -/
inductive ItemFault (item : Json) (index : Nat) : InventoryError → Prop where
  | notAnObject (other : ∀ members, item ≠ .object members) :
      ItemFault item index (.notAnObject index)
  /-- The first field that is not given. -/
  | missingField {members : List (String × Json)} {field : EquipmentField}
      {earlier later : List EquipmentField} (object : item = .object members)
      (order : inOrder = earlier ++ field :: later)
      (given : ∀ other ∈ earlier, ∃ text, other.IsGiven members text)
      (missing : ¬ ∃ text, field.IsGiven members text) :
      ItemFault item index (.missingField index field)

/-- Why a value is no inventory. -/
inductive Refused : Json → InventoryError → Prop where
  | notAnArray {value : Json} (other : ∀ items, value ≠ .array items) :
      Refused value .notAnArray
  /-- The first item that describes no forklift. -/
  | fault {earlier later : List Json} {item : Json} {error : InventoryError}
      (described : ∀ other ∈ earlier, ∃ equipment, Describes other equipment)
      (faulty : ItemFault item (earlier.length + 1) error) :
      Refused (.array (earlier ++ item :: later)) error

theorem held?_eq_none_iff {key : String} {members : List (String × Json)} :
    held? key members = none ↔
      Json.member? key members = none ∨ Json.member? key members = some .null := by
  cases holds : Json.member? key members with
  | none => simp [held?, holds]
  | some value => simp [held?, holds, Json.isNull_iff]

theorem held?_eq_some_iff {key : String} {members : List (String × Json)} {value : Json} :
    held? key members = some value ↔ Json.member? key members = some value ∧ value ≠ .null := by
  simp [held?, Option.filter_eq_some_iff, ← Json.isNull_iff]

/-- The value that counts for a field is what is held under the first of its keys that holds
anything. -/
theorem fieldValue?_eq (field : EquipmentField) (members : List (String × Json)) :
    fieldValue? field members =
      (held? field.key members).or (held? field.alternateKey members) := by
  have apart (value? : Option Json) :
      value?.toList.find? (!·.isNull) = value?.filter (!·.isNull) := by
    cases value? with
    | none => rfl
    | some value => cases null : value.isNull <;> simp [null, Option.filter]
  have keys : [field.key, field.alternateKey].filterMap (Json.member? · members) =
      (Json.member? field.key members).toList ++
        (Json.member? field.alternateKey members).toList := by
    cases canonical : Json.member? field.key members <;>
      cases alternate : Json.member? field.alternateKey members <;> simp [canonical, alternate]
  rw [fieldValue?, keys, List.find?_append, apart, apart, held?, held?]

/-- A text is given for a field where it counts for the field and is not empty. -/
theorem isGiven_iff {field : EquipmentField} {members : List (String × Json)} {text : String} :
    field.IsGiven members text ↔ text ≠ "" ∧ fieldValue? field members = some (.string text) := by
  rw [fieldValue?_eq, Option.or_eq_some_iff, held?_eq_none_iff]
  simp [held?_eq_some_iff, IsGiven]

theorem requiredText_eq_ok_iff {index : Nat} {members : List (String × Json)}
    {field : EquipmentField} {text : String} :
    requiredText index members field = .ok text ↔ field.IsGiven members text := by
  rw [isGiven_iff]
  unfold requiredText
  split
  · rename_i found counts
    simp only [counts, Option.some.injEq, Json.string.injEq, String.isEmpty_iff]
    by_cases empty : found = ""
    · rw [if_pos empty, empty]
      exact iff_of_false nofun fun given => given.1 given.2.symm
    · rw [if_neg empty, Except.ok.injEq]
      exact ⟨fun same => ⟨same ▸ empty, same⟩, And.right⟩
  · rename_i other
    exact iff_of_false nofun fun given => other text given.2

/-- The one error about a field is that nothing is given for it. -/
theorem requiredText_eq_error_iff {index : Nat} {members : List (String × Json)}
    {field : EquipmentField} {error : InventoryError} :
    requiredText index members field = .error error ↔
      (¬ ∃ text, field.IsGiven members text) ∧ error = .missingField index field := by
  have refused (other : InventoryError) (failed : requiredText index members field = .error other) :
      other = .missingField index field := by
    unfold requiredText at failed
    split at failed
    · split at failed
      · exact (Except.error.inj failed).symm
      · cases failed
    · exact (Except.error.inj failed).symm
  simp only [← @requiredText_eq_ok_iff index]
  cases read : requiredText index members field with
  | ok text => simp
  | error other => simp [refused other read, eq_comm]

/-- An item is read where it describes a forklift. -/
theorem normalizeItem_eq_ok_iff {item : Json} {index : Nat} {equipment : Equipment} :
    normalizeItem item index = .ok equipment ↔ Describes item equipment := by
  cases item with
  | object members =>
    simp only [normalizeItem, bind_eq_ok_iff, requiredText_eq_ok_iff]
    constructor
    · rintro ⟨name, named, modelNumber, numbered, manufacturingDate, dated, whole⟩
      obtain rfl := Except.ok.inj whole
      exact ⟨members, rfl, named, numbered, dated⟩
    · rintro ⟨_, same, named, numbered, dated⟩
      obtain rfl := Json.object.inj same
      exact ⟨_, named, _, numbered, _, dated, rfl⟩
  | _ => exact iff_of_false nofun fun ⟨_, other, _⟩ => nomatch other

/-- The fields of an object are read one after the other. -/
theorem normalizeItem_object_eq_error_iff {members : List (String × Json)} {index : Nat}
    {error : InventoryError} :
    normalizeItem (.object members) index = .error error ↔
      inOrder.mapM (requiredText index members) = .error error := by
  simp only [normalizeItem, inOrder, List.mapM_cons, List.mapM_nil]
  cases requiredText index members .name <;>
    cases requiredText index members .modelNumber <;>
      cases requiredText index members .manufacturingDate <;>
        simp [bind, Except.bind, pure, Except.pure]

theorem normalizeItem_eq_error_iff {item : Json} {index : Nat} {error : InventoryError} :
    normalizeItem item index = .error error ↔ ItemFault item index error := by
  constructor
  · intro refused
    cases item with
    | object members =>
      rw [normalizeItem_object_eq_error_iff, mapM_eq_error_iff] at refused
      obtain ⟨earlier, field, later, order, read, failed⟩ := refused
      simp only [requiredText_eq_ok_iff] at read
      obtain ⟨missing, rfl⟩ := requiredText_eq_error_iff.mp failed
      exact .missingField rfl order read missing
    | _ =>
      cases refused
      exact .notAnObject nofun
  · rintro (other | ⟨rfl, order, given, missing⟩)
    · cases item with
      | object members => exact absurd rfl (other members)
      | _ => rfl
    · rw [normalizeItem_object_eq_error_iff, mapM_eq_error_iff]
      refine ⟨_, _, _, order, ?_, requiredText_eq_error_iff.mpr ⟨missing, rfl⟩⟩
      simp only [requiredText_eq_ok_iff]
      exact given

theorem normalize_array_eq_ok_iff {items : List Json} {records : Inventory} :
    normalize (.array items) = .ok records ↔ List.Forall₂ Describes items records := by
  have values : items = (items.zipIdx 1).map Prod.fst := (List.zipIdx_map_fst 1 items).symm
  rw [normalize, mapM_eq_ok_iff]
  conv_rhs => rw [values, List.forall₂_map_left_iff]
  simp only [normalizeItem_eq_ok_iff]

/-- An array is refused for its first item that describes no forklift. -/
theorem normalize_array_eq_error_iff {items : List Json} {error : InventoryError} :
    normalize (.array items) = .error error ↔ Refused (.array items) error := by
  rw [normalize, mapM_eq_error_iff]
  simp only [normalizeItem_eq_ok_iff, normalizeItem_eq_error_iff]
  constructor
  · rintro ⟨earlier, ⟨item, index⟩, later, split, described, faulty⟩
    obtain ⟨before, after, rfl, rfl, rfl⟩ := exists_of_zipIdx_eq split
    rw [Nat.add_comm] at faulty
    exact .fault ((forall_mem_zipIdx_iff _).mp described) faulty
  · rintro (other | @⟨earlier, later, item, _, described, faulty⟩)
    · exact absurd rfl (other items)
    · rw [Nat.add_comm] at faulty
      refine ⟨earlier.zipIdx 1, (item, 1 + earlier.length),
        later.zipIdx (1 + earlier.length + 1), ?_, (forall_mem_zipIdx_iff _).mpr described, faulty⟩
      rw [List.zipIdx_append, List.zipIdx_cons]

theorem normalizeItem_congr {item other : Json} (same : SameFields item other) (index : Nat) :
    normalizeItem item index = normalizeItem other index := by
  unfold SameFields at same
  split at same
  · rename_i members others
    have texts (field : EquipmentField) :
        requiredText index members field = requiredText index others field := by
      obtain ⟨canonical, alternate⟩ := same field
      simp only [requiredText, fieldValue?_eq, canonical, alternate]
    simp only [normalizeItem, texts]
  · rw [same]

/-- Items may be exchanged for items with the same fields. -/
theorem normalize_congr {items others : List Json} (same : List.Forall₂ SameFields items others) :
    normalize (.array items) = normalize (.array others) := by
  unfold normalize
  generalize 1 = start
  induction same generalizing start with
  | nil => rfl
  | cons head _ ih =>
    simp only [List.zipIdx_cons, List.mapM_cons, normalizeItem_congr head, ih]

theorem Describes.fields_ne_empty {item : Json} {equipment : Equipment}
    (described : Describes item equipment) :
    equipment.name ≠ "" ∧ equipment.modelNumber ≠ "" ∧ equipment.manufacturingDate ≠ "" := by
  obtain ⟨members, -, name, modelNumber, manufacturingDate⟩ := described
  exact ⟨name.1, modelNumber.1, manufacturingDate.1⟩

/-- A canonical key that holds a value but no text leaves its field without one. -/
theorem not_isGiven_of_canonical {field : EquipmentField} {members : List (String × Json)}
    {canonical : Json} (holds : Json.member? field.key members = some canonical)
    (nonnull : canonical ≠ .null) (textless : ∀ text, canonical = .string text → text = "") :
    ¬ ∃ text, field.IsGiven members text := by
  rintro ⟨text, nonempty, own | ⟨absent | null, -⟩⟩
  · rw [holds] at own
    exact nonempty (textless text (Option.some.inj own))
  · rw [holds] at absent
    cases absent
  · rw [holds] at null
    exact nonnull (Option.some.inj null)

theorem Describes.isGiven {members : List (String × Json)} {equipment : Equipment}
    (described : Describes (.object members) equipment) (field : EquipmentField) :
    ∃ text, field.IsGiven members text := by
  obtain ⟨others, same, name, modelNumber, manufacturingDate⟩ := described
  obtain rfl := Json.object.inj same
  cases field with
  | name => exact ⟨_, name⟩
  | modelNumber => exact ⟨_, modelNumber⟩
  | manufacturingDate => exact ⟨_, manufacturingDate⟩

/-- In an inventory every item describes a record, and every record is described. -/
theorem mem_of_described {items : List Json} {records : Inventory}
    (described : List.Forall₂ Describes items records) :
    (∀ item ∈ items, ∃ equipment, Describes item equipment) ∧
      ∀ equipment ∈ records, ∃ item, Describes item equipment := by
  induction described with
  | nil => exact ⟨nofun, nofun⟩
  | cons head _ ih =>
    exact ⟨List.forall_mem_cons.mpr ⟨⟨_, head⟩, ih.1⟩,
      List.forall_mem_cons.mpr ⟨⟨_, head⟩, ih.2⟩⟩

theorem normalize_eq_ok_iff {value : Json} {records : Inventory} :
    normalize value = .ok records ↔
      ∃ items, value = .array items ∧ List.Forall₂ Describes items records := by
  cases value with
  | array items =>
    rw [normalize_array_eq_ok_iff]
    exact ⟨fun described => ⟨items, rfl, described⟩, fun ⟨_, same, described⟩ =>
      Json.array.inj same ▸ described⟩
  | _ => exact iff_of_false nofun fun ⟨_, other, _⟩ => nomatch other

theorem normalize_eq_error_iff {value : Json} {error : InventoryError} :
    normalize value = .error error ↔ Refused value error := by
  cases value with
  | array items => exact normalize_array_eq_error_iff
  | _ =>
    constructor
    · rintro ⟨⟩
      exact .notAnArray nofun
    · rintro ⟨⟩
      rfl

/-- An inventory is an array of objects that each give all fields, and its records are what they
give, in their order. Anything else is refused: for not being an array, or for its first item that
describes no forklift, at its place counted from 1, and there for not being an object or for the
first field that is not given. A canonical key that holds anything but null decides about its field
whatever the alternate key holds, and what is held under other keys has no part in the result. -/
theorem normalize_decides (value : Json) :
    (∀ records, normalize value = .ok records ↔
      ∃ items, value = .array items ∧ List.Forall₂ Describes items records) ∧
    (∀ records, normalize value = .ok records → ∀ equipment ∈ records,
      equipment.name ≠ "" ∧ equipment.modelNumber ≠ "" ∧ equipment.manufacturingDate ≠ "") ∧
    (∀ error, normalize value = .error error ↔ Refused value error) ∧
    (∀ items members field canonical, value = .array items → .object members ∈ items →
      Json.member? (EquipmentField.key field) members = some canonical → canonical ≠ .null →
      (∀ text, canonical = .string text → text = "") →
      ∃ error, normalize value = .error error) ∧
    (∀ items others, value = .array items → List.Forall₂ SameFields items others →
      normalize (.array others) = normalize value) := by
  refine ⟨fun _ => normalize_eq_ok_iff, ?_, fun _ => normalize_eq_error_iff, ?_, ?_⟩
  · intro records accepted equipment member
    obtain ⟨items, -, described⟩ := normalize_eq_ok_iff.mp accepted
    obtain ⟨item, described⟩ := (mem_of_described described).2 equipment member
    exact described.fields_ne_empty
  · rintro items members field canonical rfl member holds nonnull textless
    cases outcome : normalize (.array items) with
    | error error => exact ⟨error, rfl⟩
    | ok records =>
      have described := normalize_array_eq_ok_iff.mp outcome
      obtain ⟨equipment, described⟩ := (mem_of_described described).1 _ member
      exact absurd (described.isGiven field) (not_isGiven_of_canonical holds nonnull textless)
  · rintro items others rfl same
    exact (normalize_congr same).symm

end Inventory

end Forklift
