import Forklift.Command.Json
import Forklift.Command.LeadingZeros
import Forklift.Text.Utf8

/-! # Magnitudes as digits

The same magnitudes kept as their canonical digits. Numbers of a fixed width are read off the digits one
by one, and a number that gets too large on the way is none.
-/

namespace Forklift

/-- Digits in canonical form: at least one, and no zero in front of others. -/
def IsCanonical (digits : List Char) : Prop :=
  digits ≠ [] ∧ digits.all Char.isDigit = true ∧ (digits.head? = some '0' → digits = ['0'])

/-- The size of a step, told by its canonical digits. -/
structure DigitMagnitude where
  digits : String
  canonical : IsCanonical digits.toList
deriving DecidableEq

/-- A number, if it is below a bound. -/
def numberBelow? (bound n : Nat) : Option Nat :=
  if n < bound then some n else none

/-- Puts one more digit behind those of a number. Neither the tens nor the sum may reach the bound. -/
def appendDigit? (bound value : Nat) (digit : Char) : Option Nat := do
  let tens ← numberBelow? bound (10 * value)
  numberBelow? bound (tens + (digit.toNat - '0'.toNat))

/-- The number that digits denote, if no number on the way to it reaches the bound. -/
def readBelow? (bound : Nat) (digits : List Char) : Option Nat :=
  digits.foldlM (appendDigit? bound) 0

/-! ## Canonical digits -/

theorem isCanonical_zero : IsCanonical ['0'] :=
  ⟨by decide, by decide, fun _ => rfl⟩

/-- Digits are canonical once their leading zeros are gone, if any are left. -/
theorem isCanonical_significant {digits : List Char} (all : digits.all Char.isDigit = true)
    (some_left : Magnitude.significant digits ≠ []) :
    IsCanonical (Magnitude.significant digits) := by
  refine ⟨some_left, ?_, ?_⟩
  · rw [List.all_eq_true] at all ⊢
    intro c member
    exact all c ((List.dropWhile_sublist _).subset member)
  · intro zero
    have other := List.head?_dropWhile_not (· == '0') digits
    rw [← Magnitude.significant, zero] at other
    contradiction

theorem significant_of_isCanonical {digits : List Char} (canonical : IsCanonical digits)
    (other : digits ≠ ['0']) : Magnitude.significant digits = digits := by
  obtain ⟨ne_nil, -, zero⟩ := canonical
  obtain ⟨c, rest, rfl⟩ := List.exists_cons_of_ne_nil ne_nil
  have first : c ≠ '0' := by
    rintro rfl
    exact other (zero rfl)
  rw [Magnitude.significant_cons, if_neg first]

/-- Canonical digits are the decimal form of the number that they denote. -/
theorem toDigits_of_isCanonical {digits : List Char} (canonical : IsCanonical digits) :
    Nat.toDigits 10 (Nat.ofDigitChars 10 digits 0) = digits := by
  by_cases zero : digits = ['0']
  · rw [zero]
    rfl
  · rw [Magnitude.toDigits_ofDigitChars_zero canonical.2.1, significant_of_isCanonical canonical zero,
      if_neg canonical.1]

/-- The decimal form of a number is canonical. -/
theorem isCanonical_toDigits (n : Nat) : IsCanonical (Nat.toDigits 10 n) := by
  have all : (Nat.toDigits 10 n).all Char.isDigit = true := Magnitude.all_isDigit_digits ⟨n⟩
  have decimal := Magnitude.toDigits_ofDigitChars_zero all
  rw [Nat.ofDigitChars_ten_toDigits] at decimal
  split at decimal
  · rw [decimal]
    exact isCanonical_zero
  · rename_i some_left
    rw [decimal]
    exact isCanonical_significant all some_left

/-! ## Numbers of a fixed width -/

theorem numberBelow?_eq_some_iff {bound n value : Nat} :
    numberBelow? bound n = some value ↔ n = value ∧ n < bound := by
  unfold numberBelow?
  split
  · rename_i fits
    simp only [Option.some.injEq, fits, and_true]
  · rename_i large
    simp only [reduceCtorEq, large, and_false]

theorem numberBelow?_eq_none_iff {bound n : Nat} : numberBelow? bound n = none ↔ bound ≤ n := by
  unfold numberBelow?
  split
  · rename_i fits
    simp only [reduceCtorEq, Nat.not_le.2 fits]
  · rename_i large
    simp only [Nat.not_lt.1 large]

/-- The sum alone tells whether one more digit fits. -/
theorem appendDigit?_eq (bound value : Nat) (digit : Char) :
    appendDigit? bound value digit =
      numberBelow? bound (10 * value + (digit.toNat - '0'.toNat)) := by
  cases tens : numberBelow? bound (10 * value) with
  | none =>
    have large := numberBelow?_eq_none_iff.1 tens
    simp only [appendDigit?, tens, bind, Option.bind_none]
    exact (numberBelow?_eq_none_iff.2 (Nat.le_trans large (Nat.le_add_right _ _))).symm
  | some n =>
    obtain ⟨rfl, -⟩ := numberBelow?_eq_some_iff.1 tens
    simp only [appendDigit?, tens, bind, Option.bind_some]

theorem le_ofDigitChars (digits : List Char) (start : Nat) :
    start ≤ Nat.ofDigitChars 10 digits start := by
  induction digits generalizing start with
  | nil => exact Nat.le_refl _
  | cons c rest ih =>
    rw [Nat.ofDigitChars_cons]
    have further := ih (10 * start + (c.toNat - '0'.toNat))
    omega

/-- Reading digits reaches the bound on the way exactly if it does so in the end. -/
theorem readBelow?_eq {bound : Nat} (positive : 0 < bound) (digits : List Char) :
    readBelow? bound digits = numberBelow? bound (Nat.ofDigitChars 10 digits 0) := by
  have onward {start : Nat} (small : start < bound) :
      digits.foldlM (appendDigit? bound) start =
        numberBelow? bound (Nat.ofDigitChars 10 digits start) := by
    induction digits generalizing start with
    | nil => exact (if_pos small).symm
    | cons c rest ih =>
      rw [List.foldlM_cons, appendDigit?_eq, Nat.ofDigitChars_cons]
      cases next : numberBelow? bound (10 * start + (c.toNat - '0'.toNat)) with
      | none =>
        have large := numberBelow?_eq_none_iff.1 next
        exact (numberBelow?_eq_none_iff.2 (Nat.le_trans large (le_ofDigitChars rest _))).symm
      | some n =>
        obtain ⟨rfl, fits⟩ := numberBelow?_eq_some_iff.1 next
        exact ih fits
  exact onward positive

/-! ## Magnitudes -/

namespace DigitMagnitude

/-- The magnitude that a text of ASCII digits denotes; any other text, and the empty one, denotes
none. -/
def ofDigits? (text : String) : Option DigitMagnitude :=
  if digits : text ≠ "" ∧ (Text.bytes text).all Text.isDigitByte = true then
    if zeros : Magnitude.significant text.toList = [] then some ⟨"0", isCanonical_zero⟩
    else some ⟨String.ofList (Magnitude.significant text.toList), by
      rw [String.toList_ofList]
      exact isCanonical_significant (Text.all_isDigitByte text ▸ digits.2) zeros⟩
  else none

/-- The value if it fits in 32 bits. -/
def toUInt32? (magnitude : DigitMagnitude) : Option UInt32 :=
  (readBelow? UInt32.size magnitude.digits.toList).map UInt32.ofNat

/-- Whether the value is a number of 32 bits. -/
def equalsUInt32 (magnitude : DigitMagnitude) (n : UInt32) : Bool :=
  magnitude.toUInt32? = some n

def isZero (magnitude : DigitMagnitude) : Bool :=
  magnitude.digits = "0"

/-- The magnitude of a 32-bit number. -/
def ofUInt32 (n : UInt32) : DigitMagnitude where
  digits := toString n.toNat
  canonical := by
    have decimal : (toString n.toNat).toList = Nat.toDigits 10 n.toNat := by simp [toString]
    rw [decimal]
    exact isCanonical_toDigits n.toNat

def toJson (magnitude : DigitMagnitude) : Json :=
  match readBelow? UInt64.size magnitude.digits.toList with
  | some n => .nat n
  | none => .string magnitude.digits

/-- The magnitude as a number. -/
def toMagnitude (magnitude : DigitMagnitude) : Magnitude :=
  ⟨Nat.ofDigitChars 10 magnitude.digits.toList 0⟩

end DigitMagnitude

end Forklift
