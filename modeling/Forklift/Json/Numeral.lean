/-! # Numerals

The numbers of JSON as they are written. A numeral is read as far as the grammar reaches; whether its
value is small enough for a double is a question of its own, answered by `Numeral.isFinite`.
-/

namespace Forklift.Json

/-- A written number: sign, digits before the point, digits after it, and a power of ten. -/
structure Numeral where
  negative : Bool
  whole : List Char
  /-- The digits after the point, if there is one. -/
  fraction : Option (List Char)
  exponent : Option Int
deriving DecidableEq, Repr

namespace Numeral

/-- The numeral of a natural number. -/
def ofNat (n : Nat) : Numeral :=
  ⟨false, Nat.toDigits 10 n, none, none⟩

/-- The natural number that a numeral spells without sign, point and exponent. -/
def toNat? (numeral : Numeral) : Option Nat :=
  match numeral with
  | ⟨false, whole, none, none⟩ => some (Nat.ofDigitChars 10 whole 0)
  | _ => none

/-- The characters of a numeral. -/
def spell (numeral : Numeral) : List Char :=
  (if numeral.negative then ['-'] else []) ++ numeral.whole ++
    (match numeral.fraction with
      | none => []
      | some digits => '.' :: digits) ++
    (match numeral.exponent with
      | none => []
      | some power => 'e' :: (toString power).toList)

/-! ## Reading -/

/-- Digits before the point: at least one, and no zero before others. -/
def readWhole? (text : List Char) : Option (List Char × List Char) :=
  match text.takeWhile Char.isDigit with
  | [] => none
  | '0' :: _ :: _ => none
  | digits => some (digits, text.dropWhile Char.isDigit)

/-- A run of at least one digit. -/
def readDigits? (text : List Char) : Option (List Char × List Char) :=
  match text.takeWhile Char.isDigit with
  | [] => none
  | digits => some (digits, text.dropWhile Char.isDigit)

/-- A point must be followed by digits; without a point nothing is read. -/
def readFraction? : List Char → Option (Option (List Char) × List Char)
  | '.' :: rest => (readDigits? rest).map fun (digits, rest) => (some digits, rest)
  | rest => some (none, rest)

/-- The digits of a power of ten, after its sign. -/
def readPower? (negative : Bool) (text : List Char) : Option (Option Int × List Char) :=
  (readDigits? text).map fun (digits, rest) =>
    let power : Int := Nat.ofDigitChars 10 digits 0
    (some (if negative then -power else power), rest)

/-- The letter `e` in either case must be followed by a power; without it nothing is read. -/
def readExponent? : List Char → Option (Option Int × List Char)
  | c :: rest =>
    if c = 'e' || c = 'E' then
      match rest with
      | '-' :: rest => readPower? true rest
      | '+' :: rest => readPower? false rest
      | rest => readPower? false rest
    else some (none, c :: rest)
  | [] => some (none, [])

/-- The numeral after an optional minus sign has been read. -/
def readUnsigned? (negative : Bool) (text : List Char) : Option (Numeral × List Char) := do
  let (whole, rest) ← readWhole? text
  let (fraction, rest) ← readFraction? rest
  let (exponent, rest) ← readExponent? rest
  return (⟨negative, whole, fraction, exponent⟩, rest)

/-- The numeral at the front of a text, and the text after it. -/
def read? : List Char → Option (Numeral × List Char)
  | '-' :: rest => readUnsigned? true rest
  | text => readUnsigned? false text

/-! ## Reading shortens the text -/

theorem length_readDigits? {text rest digits : List Char}
    (read : readDigits? text = some (digits, rest)) : rest.length < text.length := by
  have split := congrArg List.length (List.takeWhile_append_dropWhile (p := Char.isDigit) (l := text))
  rw [List.length_append] at split
  simp only [readDigits?] at read
  cases taken : text.takeWhile Char.isDigit with
  | nil => simp [taken] at read
  | cons c more =>
    rw [taken, List.length_cons] at split
    simp only [taken, Option.some.injEq, Prod.mk.injEq] at read
    rw [← read.2]
    omega

theorem length_readWhole? {text rest digits : List Char}
    (read : readWhole? text = some (digits, rest)) : rest.length < text.length := by
  have split := congrArg List.length (List.takeWhile_append_dropWhile (p := Char.isDigit) (l := text))
  rw [List.length_append] at split
  simp only [readWhole?] at read
  split at read
  · contradiction
  · contradiction
  · rename_i notNil _
    have := List.length_pos_iff.2 notNil
    simp only [Option.some.injEq, Prod.mk.injEq] at read
    rw [← read.2]
    omega

theorem length_readFraction? {text rest : List Char} {fraction : Option (List Char)}
    (read : readFraction? text = some (fraction, rest)) : rest.length ≤ text.length := by
  simp only [readFraction?] at read
  split at read
  · obtain ⟨⟨digits, after⟩, found, same⟩ := Option.map_eq_some_iff.1 read
    simp only [Prod.mk.injEq] at same
    have := length_readDigits? found
    rw [← same.2, List.length_cons]
    omega
  · simp only [Option.some.injEq, Prod.mk.injEq] at read
    exact Nat.le_of_eq (congrArg List.length read.2.symm)

theorem length_readPower? {negative : Bool} {text rest : List Char} {power : Option Int}
    (read : readPower? negative text = some (power, rest)) : rest.length < text.length := by
  obtain ⟨⟨digits, after⟩, found, same⟩ := Option.map_eq_some_iff.1 read
  simp only [Prod.mk.injEq] at same
  have := length_readDigits? found
  rw [← same.2]
  omega

theorem length_readExponent? {text rest : List Char} {power : Option Int}
    (read : readExponent? text = some (power, rest)) : rest.length ≤ text.length := by
  cases text with
  | nil =>
    simp only [readExponent?, Option.some.injEq, Prod.mk.injEq] at read
    simp [← read.2]
  | cons c tail =>
    simp only [readExponent?] at read
    split at read
    · split at read
      all_goals
        have := length_readPower? read
        simp only [List.length_cons] at this ⊢
        omega
    · simp only [Option.some.injEq, Prod.mk.injEq] at read
      simp [← read.2]

theorem length_readUnsigned? {negative : Bool} {text rest : List Char} {n : Numeral}
    (read : readUnsigned? negative text = some (n, rest)) : rest.length < text.length := by
  simp only [readUnsigned?, Option.bind_eq_bind, Option.bind_eq_some_iff, Option.pure_def,
    Option.some.injEq, Prod.mk.injEq, Prod.exists] at read
  obtain ⟨whole, rest₁, readWhole, fraction, rest₂, readFraction, power, rest₃, readExponent, -,
    rfl⟩ := read
  have := length_readWhole? readWhole
  have := length_readFraction? readFraction
  have := length_readExponent? readExponent
  omega

theorem length_read? {text rest : List Char} {n : Numeral}
    (read : read? text = some (n, rest)) : rest.length < text.length := by
  simp only [read?] at read
  split at read
  · have := length_readUnsigned? read
    rw [List.length_cons]
    omega
  · exact length_readUnsigned? read

/-! ## Range

The digits are gathered into a significand of 64 bits. A digit that no longer fits is left out; left
out before the point it still counts as a power of ten. The value is the significand times a power of
ten, both taken to the nearest double.
-/

/-- The least number that takes more than 64 bits. -/
def significandLimit : Nat := UInt64.size

/-- Gathers digits while the significand fits, and counts those that were taken. -/
def gather (significand taken : Nat) : List Char → Nat × Nat
  | [] => (significand, taken)
  | digit :: rest =>
    let next := significand * 10 + (digit.toNat - '0'.toNat)
    if next < significandLimit then gather next (taken + 1) rest else (significand, taken)

/-- The nearest number with 53 significant bits; a tie goes to the even neighbour. -/
def roundToDouble (n : Nat) : Nat :=
  let unit := Nat.pow 2 (n.log2 - 52)
  let below := n / unit
  let rest := n % unit
  if unit < 2 * rest || (unit = 2 * rest && below % 2 = 1) then (below + 1) * unit else below * unit

/-- The least number that rounds past the largest double. -/
def doubleLimit : Nat := Nat.pow 2 1024 - Nat.pow 2 970

/-- The largest power of ten that is a double. -/
def maxPower : Nat := 308

/-- Whether the value of a numeral is within the range of doubles. -/
def isFinite (numeral : Numeral) : Bool :=
  let fraction := numeral.fraction.getD []
  let (high, takenHigh) := gather 0 0 numeral.whole
  let (significand, takenLow) := gather high 0 fraction
  let power : Int := (numeral.whole.length - takenHigh : Nat) - takenLow + numeral.exponent.getD 0
  significand = 0 || power ≤ 0 ||
    (power.toNat ≤ maxPower &&
      roundToDouble significand * roundToDouble (Nat.pow 10 power.toNat) < doubleLimit)

end Numeral

end Forklift.Json
