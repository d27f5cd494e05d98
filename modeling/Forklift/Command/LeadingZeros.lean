import Forklift.Command.Magnitude
import Mathlib.Data.List.DropRight

/-! # Leading zeros

What a run of digits denotes hangs on its significant digits alone, those from the first one on that
is not a zero. They are the canonical digits of what the run denotes, except that nothing is written
as one zero.
-/

namespace Forklift.Magnitude

/-- The digits from the first one on that is not a zero. -/
def significant (digits : List Char) : List Char :=
  digits.dropWhile (· == '0')

theorem exists_digitChar_of_isDigit {c : Char} (digit : c.isDigit = true) :
    ∃ n < 10, c = Nat.digitChar n := by
  obtain ⟨lower, upper⟩ := Char.isDigit_iff_toNat.mp digit
  have zero : '0'.toNat = 48 := rfl
  have nine : '9'.toNat = 57 := rfl
  have small : c.toNat - 48 < 10 := by omega
  refine ⟨c.toNat - 48, small, Char.toNat_inj.mp ?_⟩
  rw [Nat.toNat_digitChar_of_lt_ten small]
  omega

/-- Reading on behind a number that is not zero, no digit is lost. -/
theorem toDigits_ofDigitChars {digits : List Char} (all : digits.all Char.isDigit = true)
    {start : Nat} (positive : 0 < start) :
    Nat.toDigits 10 (Nat.ofDigitChars 10 digits start) = Nat.toDigits 10 start ++ digits := by
  induction digits generalizing start with
  | nil => rw [Nat.ofDigitChars_nil, List.append_nil]
  | cons c rest ih =>
    simp only [List.all_cons, Bool.and_eq_true] at all
    obtain ⟨n, small, rfl⟩ := exists_digitChar_of_isDigit all.1
    have further : 0 < 10 * start + n := by omega
    rw [Nat.ofDigitChars_cons_digitChar_of_lt_ten small, ih all.2 further,
      ← Nat.toDigits_append_toDigits (by decide) positive small, Nat.toDigits_of_lt_base small,
      List.append_assoc, List.singleton_append]

theorem significant_cons (c : Char) (rest : List Char) :
    significant (c :: rest) = if c = '0' then significant rest else c :: rest := by
  simp only [significant, List.dropWhile_cons, beq_iff_eq]

theorem ofDigitChars_significant (digits : List Char) :
    Nat.ofDigitChars 10 (significant digits) 0 = Nat.ofDigitChars 10 digits 0 := by
  induction digits with
  | nil => rfl
  | cons c rest ih =>
    rw [significant_cons]
    split
    · rename_i zero
      rw [ih, zero]
      rfl
    · rfl

/-- The canonical digits are the significant ones, and one zero where there are none. -/
theorem toDigits_ofDigitChars_zero {digits : List Char} (all : digits.all Char.isDigit = true) :
    Nat.toDigits 10 (Nat.ofDigitChars 10 digits 0) =
      if significant digits = [] then ['0'] else significant digits := by
  induction digits with
  | nil => rfl
  | cons c rest ih =>
    simp only [List.all_cons, Bool.and_eq_true] at all
    rw [significant_cons]
    by_cases zero : c = '0'
    · rw [if_pos zero, ← ih all.2, zero]
      rfl
    · rw [if_neg zero, if_neg (List.cons_ne_nil c rest)]
      obtain ⟨n, small, rfl⟩ := exists_digitChar_of_isDigit all.1
      have positive : 0 < n := by
        apply Nat.pos_of_ne_zero
        rintro rfl
        exact zero rfl
      rw [Nat.ofDigitChars_cons_digitChar_of_lt_ten small, Nat.mul_zero, Nat.zero_add,
        toDigits_ofDigitChars all.2 positive, Nat.toDigits_of_lt_base small]
      rfl

/-- No run of digits is shorter than the canonical digits of what it denotes. -/
theorem length_toDigits_ofDigitChars_le {digits : List Char} (ne_nil : digits ≠ [])
    (all : digits.all Char.isDigit = true) :
    (Nat.toDigits 10 (Nat.ofDigitChars 10 digits 0)).length ≤ digits.length := by
  rw [toDigits_ofDigitChars_zero all]
  split
  · exact List.length_pos_iff.mpr ne_nil
  · exact (List.dropWhile_sublist _).length_le

/-- Two runs of digits denote the same exactly where their significant digits are the same. -/
theorem ofDigitChars_eq_iff {digits others : List Char} (all : digits.all Char.isDigit = true)
    (all_others : others.all Char.isDigit = true) :
    Nat.ofDigitChars 10 digits 0 = Nat.ofDigitChars 10 others 0 ↔
      significant digits = significant others := by
  have recovered {run : List Char} (all : run.all Char.isDigit = true) :
      significant (Nat.toDigits 10 (Nat.ofDigitChars 10 run 0)) = significant run := by
    rw [toDigits_ofDigitChars_zero all]
    split
    · rename_i none
      rw [none]
      rfl
    · exact List.dropWhile_idempotent _ run
  constructor
  · intro same
    rw [← recovered all, same, recovered all_others]
  · intro same
    rw [← ofDigitChars_significant, same, ofDigitChars_significant]

end Forklift.Magnitude
