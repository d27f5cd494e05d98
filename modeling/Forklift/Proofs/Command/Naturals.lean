import Forklift.Command.DigitMagnitude
import Mathlib.Algebra.Group.Nat.Defs
import Mathlib.Logic.Function.Basic

/-! # What magnitudes denote

A magnitude that is kept as digits is a natural number of any size: there is one for each number, so
whatever is asked of the digits is answered as it would be by the number. That holds at the bounds of 32
and of 64 bits as well, which are looked for while the digits are read.
-/

namespace Forklift

theorem Json.nat_injective : Function.Injective Json.nat := by
  intro n m same
  have values := congrArg Json.Numeral.toNat? (Json.number.inj same)
  simpa [Json.Numeral.ofNat, Json.Numeral.toNat?] using values

theorem Json.nat_ne_string (n : Nat) (text : String) : Json.nat n ≠ .string text := nofun

namespace DigitMagnitude

/-! ## One magnitude for each number -/

theorem toList_digits (magnitude : DigitMagnitude) :
    magnitude.digits.toList = magnitude.toMagnitude.digits :=
  (toDigits_of_isCanonical magnitude.canonical).symm

theorem text_toMagnitude (magnitude : DigitMagnitude) :
    magnitude.toMagnitude.text = magnitude.digits := by
  rw [Magnitude.text, ← toList_digits, String.ofList_toList]

theorem toMagnitude_injective : Function.Injective toMagnitude := by
  intro magnitude further same
  have digits : magnitude.digits = further.digits := by
    rw [← text_toMagnitude, same, text_toMagnitude]
  cases magnitude
  cases further
  cases digits
  rfl

theorem toMagnitude_surjective : Function.Surjective toMagnitude := by
  intro magnitude
  refine ⟨⟨magnitude.text, ?_⟩, ?_⟩
  · rw [Magnitude.text, String.toList_ofList]
    exact isCanonical_toDigits magnitude.value
  · change Magnitude.mk (Nat.ofDigitChars 10 magnitude.text.toList 0) = magnitude
    rw [Magnitude.text, String.toList_ofList, Magnitude.digits, Nat.ofDigitChars_ten_toDigits]

/-! ## Reading digits -/

theorem isSome_ofDigits? {text : String} :
    (ofDigits? text).isSome = true ↔ text ≠ "" ∧ ∀ c ∈ text.toList, c.isDigit = true := by
  rw [← List.all_eq_true, ← Text.all_isDigitByte, ofDigits?]
  split
  · rename_i digits
    split <;> simp [digits]
  · rename_i other
    exact iff_of_false Bool.false_ne_true other

/-- Leading zeros do not change what digits denote. -/
theorem value_of_ofDigits? {text : String} {magnitude : DigitMagnitude}
    (read : ofDigits? text = some magnitude) :
    magnitude.toMagnitude.value = Nat.ofDigitChars 10 text.toList 0 := by
  rw [← Magnitude.ofDigitChars_significant, toMagnitude]
  unfold ofDigits? at read
  split at read
  · split at read
    · rename_i zeros
      obtain rfl := Option.some.inj read
      rw [zeros]
      rfl
    · obtain rfl := Option.some.inj read
      rw [String.toList_ofList]
  · contradiction

/-- Digits and the number that they denote are read alike. -/
theorem map_toMagnitude_ofDigits? (text : String) :
    (ofDigits? text).map toMagnitude = Magnitude.ofDigits? text.toList := by
  cases read : ofDigits? text with
  | none =>
    have refused : ¬ (text.toList ≠ [] ∧ text.toList.all Char.isDigit = true) := by
      have none_read := @isSome_ofDigits? text
      rw [read] at none_read
      simpa using none_read
    rw [Magnitude.ofDigits?, if_neg refused]
    rfl
  | some magnitude =>
    have digits := isSome_ofDigits?.1 (Option.isSome_of_mem read)
    have taken : text.toList ≠ [] ∧ text.toList.all Char.isDigit = true := by
      simpa using digits
    rw [Magnitude.ofDigits?, if_pos taken, ← value_of_ofDigits? read]
    rfl

/-- The digits of a magnitude are read as that magnitude. -/
theorem ofDigits?_digits (magnitude : DigitMagnitude) :
    ofDigits? magnitude.digits = some magnitude := by
  have read := map_toMagnitude_ofDigits? magnitude.digits
  rw [toList_digits, Magnitude.ofDigits?_digits, Option.map_eq_some_iff] at read
  obtain ⟨again, found, same⟩ := read
  rw [found, toMagnitude_injective same]

/-! ## Questions about a magnitude -/

theorem toUInt32?_toMagnitude (magnitude : DigitMagnitude) :
    magnitude.toMagnitude.toUInt32? = magnitude.toUInt32? := by
  rw [toUInt32?, readBelow?_eq (by decide), numberBelow?, Magnitude.toUInt32?, toMagnitude]
  split <;> rfl

theorem isZero_toMagnitude (magnitude : DigitMagnitude) :
    magnitude.toMagnitude.isZero = magnitude.isZero := by
  rw [Bool.eq_iff_iff, isZero, decide_eq_true_eq, Magnitude.isZero, beq_iff_eq]
  constructor
  · intro zero
    rw [← text_toMagnitude, Magnitude.text, Magnitude.digits, zero]
    rfl
  · intro zero
    rw [toMagnitude, zero]
    rfl

theorem toJson_toMagnitude (magnitude : DigitMagnitude) :
    magnitude.toMagnitude.toJson = magnitude.toJson := by
  rw [toJson, readBelow?_eq (by decide), numberBelow?, Magnitude.toJson, text_toMagnitude, toMagnitude]
  split <;> rfl

theorem toMagnitude_ofUInt32 (n : UInt32) : (ofUInt32 n).toMagnitude = Magnitude.ofUInt32 n := by
  have digits : (toString n.toNat).toList = Nat.toDigits 10 n.toNat := by simp [toString]
  rw [toMagnitude, ofUInt32, digits, Nat.ofDigitChars_ten_toDigits, Magnitude.ofUInt32]

/-- Magnitudes that denote a number: what is asked of the digits is what is asked of the number. -/
structure Denotes (magnitude : DigitMagnitude) (value : Nat) : Prop where
  digits : magnitude.digits = toString value
  ne_empty : magnitude.digits ≠ ""
  noLeadingZero : magnitude.digits.toList.head? = some '0' → magnitude.digits = "0"
  reread : ofDigits? magnitude.digits = some magnitude
  toUInt32?_eq_some_iff : ∀ n : UInt32, magnitude.toUInt32? = some n ↔ n.toNat = value
  toUInt32?_eq_none_iff : magnitude.toUInt32? = none ↔ 2 ^ 32 ≤ value
  equalsUInt32_iff : ∀ n : UInt32, magnitude.equalsUInt32 n = true ↔ value = n.toNat
  ofUInt32_iff : ∀ n : UInt32, ofUInt32 n = magnitude ↔ n.toNat = value
  isZero_iff : magnitude.isZero = true ↔ value = 0
  toJson_number_iff : magnitude.toJson = .nat value ↔ value < 2 ^ 64
  toJson_string_iff : magnitude.toJson = .string magnitude.digits ↔ 2 ^ 64 ≤ value

/-- A magnitude denotes the number of its digits. -/
theorem denotes (magnitude : DigitMagnitude) : magnitude.Denotes magnitude.toMagnitude.value := by
  have words : magnitude.toUInt32? = magnitude.toMagnitude.toUInt32? :=
    magnitude.toUInt32?_toMagnitude.symm
  have fits (n : UInt32) : magnitude.toUInt32? = some n ↔ n.toNat = magnitude.toMagnitude.value := by
    rw [words, Magnitude.toUInt32?_eq_some_iff]
  have json := magnitude.toJson_toMagnitude
  rw [Magnitude.toJson, text_toMagnitude] at json
  have width : UInt64.size = 2 ^ 64 := rfl
  constructor
  case digits =>
    rw [← text_toMagnitude]
    apply String.toList_inj.1
    simp [Magnitude.text, Magnitude.digits, toString]
  case ne_empty =>
    intro empty
    exact magnitude.canonical.1 (String.toList_eq_nil_iff.2 empty)
  case noLeadingZero =>
    intro zero
    exact String.toList_inj.1 (magnitude.canonical.2.2 zero)
  case reread => exact magnitude.ofDigits?_digits
  case toUInt32?_eq_some_iff => exact fits
  case toUInt32?_eq_none_iff =>
    have large : magnitude.toMagnitude.toUInt32? = none ↔ 2 ^ 32 ≤ magnitude.toMagnitude.value :=
      Magnitude.toUInt32?_eq_none_iff
    rw [words, large]
  case equalsUInt32_iff =>
    intro n
    rw [equalsUInt32, decide_eq_true_eq, fits, eq_comm]
  case ofUInt32_iff =>
    intro n
    rw [← toMagnitude_injective.eq_iff, toMagnitude_ofUInt32, Magnitude.ofUInt32, Magnitude.mk.injEq]
  case isZero_iff => rw [← isZero_toMagnitude, Magnitude.isZero, beq_iff_eq]
  case toJson_number_iff =>
    rw [← json, width]
    split
    · rename_i small
      exact iff_of_true rfl small
    · rename_i large
      exact iff_of_false (Json.nat_ne_string _ _).symm large
  case toJson_string_iff =>
    rw [← json, width]
    split
    · rename_i small
      exact iff_of_false (Json.nat_ne_string _ _) (Nat.not_le.2 small)
    · rename_i large
      exact iff_of_true rfl (Nat.not_lt.1 large)

/-- Two magnitudes are written alike in JSON only if they are the same. -/
theorem toJson_injective : Function.Injective toJson := by
  intro magnitude further same
  rw [← toJson_toMagnitude, ← toJson_toMagnitude, Magnitude.toJson, Magnitude.toJson] at same
  apply toMagnitude_injective
  split at same <;> split at same
  case isTrue.isTrue => exact congrArg Magnitude.mk (Json.nat_injective same)
  case isFalse.isFalse =>
    have texts := Json.string.inj same
    rw [text_toMagnitude, text_toMagnitude] at texts
    rw [toMagnitude, toMagnitude, texts]
  case isTrue.isFalse => exact absurd same (Json.nat_ne_string _ _)
  case isFalse.isTrue => exact absurd same.symm (Json.nat_ne_string _ _)

end DigitMagnitude

/-- Digits are read as a magnitude where there is one at least and all are ASCII digits. What is read
denotes the number that the digits denote, with or without leading zeros and at any size; magnitudes,
and their forms in JSON, are the same exactly where the numbers are. So the magnitudes that are kept as
digits are the natural numbers, and both are asked alike. -/
theorem magnitudes_denote_naturals (text other : String) :
    ((DigitMagnitude.ofDigits? text).isSome = true ↔
      text ≠ "" ∧ ∀ c ∈ text.toList, c.isDigit = true) ∧
    (∀ magnitude ∈ DigitMagnitude.ofDigits? text,
      magnitude.Denotes (Nat.ofDigitChars 10 text.toList 0) ∧
      ∀ further ∈ DigitMagnitude.ofDigits? other,
        (magnitude = further ↔
          Nat.ofDigitChars 10 text.toList 0 = Nat.ofDigitChars 10 other.toList 0) ∧
        (magnitude.toJson = further.toJson ↔
          Nat.ofDigitChars 10 text.toList 0 = Nat.ofDigitChars 10 other.toList 0)) ∧
    Function.Bijective DigitMagnitude.toMagnitude ∧
    Magnitude.ofDigits? text.toList =
      (DigitMagnitude.ofDigits? text).map DigitMagnitude.toMagnitude ∧
    (∀ n, Magnitude.ofUInt32 n = (DigitMagnitude.ofUInt32 n).toMagnitude) ∧
    ∀ magnitude : DigitMagnitude,
      magnitude.toMagnitude.text = magnitude.digits ∧
      magnitude.toMagnitude.toUInt32? = magnitude.toUInt32? ∧
      magnitude.toMagnitude.isZero = magnitude.isZero ∧
      magnitude.toMagnitude.toJson = magnitude.toJson := by
  refine ⟨DigitMagnitude.isSome_ofDigits?, ?_,
    ⟨DigitMagnitude.toMagnitude_injective, DigitMagnitude.toMagnitude_surjective⟩,
    (DigitMagnitude.map_toMagnitude_ofDigits? text).symm,
    fun n => (DigitMagnitude.toMagnitude_ofUInt32 n).symm,
    fun magnitude => ⟨magnitude.text_toMagnitude, magnitude.toUInt32?_toMagnitude,
      magnitude.isZero_toMagnitude, magnitude.toJson_toMagnitude⟩⟩
  intro magnitude read
  have value := DigitMagnitude.value_of_ofDigits? read
  refine ⟨value ▸ magnitude.denotes, ?_⟩
  intro further also
  have same : magnitude = further ↔
      Nat.ofDigitChars 10 text.toList 0 = Nat.ofDigitChars 10 other.toList 0 := by
    rw [← value, ← DigitMagnitude.value_of_ofDigits? also, ← Magnitude.mk.injEq,
      ← DigitMagnitude.toMagnitude_injective.eq_iff]
  exact ⟨same, DigitMagnitude.toJson_injective.eq_iff.trans same⟩

example : (DigitMagnitude.ofDigits? "007").map (·.digits) = some "7" := by decide

end Forklift
