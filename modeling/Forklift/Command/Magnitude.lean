/-! # Magnitudes

The size of a step is a natural number without bound, written in ASCII digits. Leading zeros are
read but never written, so each magnitude has one canonical form and reading it back is exact.
-/

namespace Forklift

/-- The size of a step, in metres or degrees. -/
structure Magnitude where
  value : Nat
deriving DecidableEq, Repr

namespace Magnitude

/-- The magnitude that a run of ASCII digits denotes; anything else, and no digit, denotes none. -/
def ofDigits? (digits : List Char) : Option Magnitude :=
  if digits ≠ [] ∧ digits.all Char.isDigit then some ⟨Nat.ofDigitChars 10 digits 0⟩ else none

/-- The canonical digits: decimal, without leading zeros, and never empty. -/
def digits (magnitude : Magnitude) : List Char :=
  Nat.toDigits 10 magnitude.value

/-- The canonical digits as text. -/
def text (magnitude : Magnitude) : String :=
  String.ofList magnitude.digits

/-- The value if it fits in 32 bits. -/
def toUInt32? (magnitude : Magnitude) : Option UInt32 :=
  if magnitude.value < UInt32.size then some (UInt32.ofNat magnitude.value) else none

def isZero (magnitude : Magnitude) : Bool :=
  magnitude.value == 0

/-- The magnitude of a 32-bit number. -/
def ofUInt32 (n : UInt32) : Magnitude :=
  ⟨n.toNat⟩

theorem digits_ne_nil (magnitude : Magnitude) : magnitude.digits ≠ [] :=
  Nat.toDigits_ne_nil

theorem all_isDigit_digits (magnitude : Magnitude) : magnitude.digits.all Char.isDigit = true :=
  List.all_eq_true.2 fun _ mem => Nat.isDigit_of_mem_toDigits (by decide) (by decide) mem

/-- The canonical digits read back as the magnitude that they were written for. -/
@[simp] theorem ofDigits?_digits (magnitude : Magnitude) :
    ofDigits? magnitude.digits = some magnitude := by
  rw [ofDigits?, if_pos ⟨digits_ne_nil _, all_isDigit_digits _⟩, digits,
    Nat.ofDigitChars_ten_toDigits]

theorem ofDigits?_isSome {digits : List Char} :
    (ofDigits? digits).isSome = true ↔ digits ≠ [] ∧ digits.all Char.isDigit = true := by
  simp only [ofDigits?]
  split <;> simp_all

/-- The value is had in 32 bits exactly where it fits. -/
theorem toUInt32?_eq_some_iff {magnitude : Magnitude} {n : UInt32} :
    magnitude.toUInt32? = some n ↔ n.toNat = magnitude.value := by
  simp only [toUInt32?]
  split
  · rename_i fits
    rw [Option.some.injEq, ← UInt32.toNat_inj, UInt32.toNat_ofNat_of_lt' fits]
    exact eq_comm
  · rename_i large
    have := n.toNat_lt_size
    simp only [reduceCtorEq, false_iff]
    omega

theorem toUInt32?_eq_none_iff {magnitude : Magnitude} :
    magnitude.toUInt32? = none ↔ UInt32.size ≤ magnitude.value := by
  simp only [toUInt32?]
  split <;> simp_all

end Magnitude

end Forklift
