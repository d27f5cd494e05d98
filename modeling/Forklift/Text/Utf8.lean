import Forklift.Text.Bytes

/-! # Texts as bytes

A text is held as the bytes of its UTF-8 form. A byte below 128 is an ASCII character of its own; the
bytes of every other character are 128 or more, so no ASCII character is ever found within one.
-/

namespace Forklift.Text

/-- The bytes of the UTF-8 form of a text. -/
def bytes (text : String) : List UInt8 :=
  text.toUTF8.data.toList

/-- The bytes of characters, one behind the other. -/
def encode (text : List Char) : List UInt8 :=
  text.flatMap String.utf8EncodeChar

/-- Whether a byte is an ASCII digit. -/
def isDigitByte (byte : UInt8) : Bool :=
  48 ≤ byte && byte ≤ 57

/-- The number that ASCII digits denote in decimal notation. -/
def decimal (digits : List UInt8) : Nat :=
  digits.foldl (fun value digit => 10 * value + (digit.toNat - 48)) 0

theorem bytes_eq (text : String) : bytes text = encode text.toList := by
  rw [bytes, String.toUTF8_eq_toByteArray, ← String.utf8Encode_toList, List.utf8Encode,
    List.data_toByteArray, encode]

@[simp] theorem encode_nil : encode [] = [] := rfl

@[simp] theorem encode_cons (c : Char) (rest : List Char) :
    encode (c :: rest) = String.utf8EncodeChar c ++ encode rest := rfl

theorem length_encode (text : List Char) : (encode text).length = byteLength text := by
  induction text with
  | nil => rfl
  | cons c rest ih =>
    rw [encode_cons, List.length_append, String.length_utf8EncodeChar, ih, byteLength_cons]

theorem utf8Size_eq_one_iff {c : Char} : c.utf8Size = 1 ↔ c.toNat < 128 := by
  rw [Char.utf8Size_eq_one_iff, UInt32.le_iff_toNat_le]
  exact Nat.lt_succ_iff.symm

/-- An ASCII character is encoded as one byte, from which it is read again. -/
theorem utf8EncodeChar_of_ascii {c : Char} (ascii : c.utf8Size = 1) :
    ∃ byte, String.utf8EncodeChar c = [byte] ∧ Char.ofUInt8 byte = c ∧ byte.toNat = c.toNat := by
  have small := utf8Size_eq_one_iff.1 ascii
  have kept : c.val.toUInt8.toNat = c.toNat := by
    rw [UInt32.toNat_toUInt8]
    exact Nat.mod_eq_of_lt (by simp only [Char.toNat] at small; omega)
  refine ⟨c.val.toUInt8, String.utf8EncodeChar_eq_singleton ascii, ?_, kept⟩
  apply Char.ext
  apply UInt32.toNat_inj.1
  exact (UInt8.toNat_toUInt32 _).trans kept

/-- Every byte of another character is 128 or more. -/
theorem le_of_mem_utf8EncodeChar {c : Char} (wide : c.utf8Size ≠ 1) {byte : UInt8}
    (member : byte ∈ String.utf8EncodeChar c) : 128 ≤ byte.toNat := by
  have large : ¬ c.val.toNat ≤ 127 := fun small => wide (utf8Size_eq_one_iff.2 (Nat.lt_succ_of_le small))
  simp only [String.utf8EncodeChar, large, ↓reduceIte] at member
  split at member
  · simp only [List.mem_cons, List.not_mem_nil, or_false] at member
    rcases member with rfl | rfl <;> simp only [UInt8.toNat_ofNat'] <;> omega
  · split at member
    · simp only [List.mem_cons, List.not_mem_nil, or_false] at member
      rcases member with rfl | rfl | rfl <;> simp only [UInt8.toNat_ofNat'] <;> omega
    · simp only [List.mem_cons, List.not_mem_nil, or_false] at member
      rcases member with rfl | rfl | rfl | rfl <;> simp only [UInt8.toNat_ofNat'] <;> omega

theorem utf8Size_ofUInt8 {byte : UInt8} (large : 128 ≤ byte.toNat) :
    (Char.ofUInt8 byte).utf8Size ≠ 1 := by
  rw [Ne, utf8Size_eq_one_iff, Nat.not_lt]
  exact large

/-- A byte of a character is that character, or neither is an ASCII character. -/
theorem of_mem_utf8EncodeChar {c : Char} {byte : UInt8} (member : byte ∈ String.utf8EncodeChar c) :
    Char.ofUInt8 byte = c ∨ (Char.ofUInt8 byte).utf8Size ≠ 1 ∧ c.utf8Size ≠ 1 := by
  by_cases ascii : c.utf8Size = 1
  · obtain ⟨only, encoded, same, -⟩ := utf8EncodeChar_of_ascii ascii
    rw [encoded, List.mem_singleton] at member
    rw [member]
    exact .inl same
  · exact .inr ⟨utf8Size_ofUInt8 (le_of_mem_utf8EncodeChar ascii member), ascii⟩

/-! ## Digits -/

theorem isDigitByte_eq (byte : UInt8) : isDigitByte byte = (Char.ofUInt8 byte).isDigit := by
  have value : (Char.ofUInt8 byte).val.toNat = byte.toNat := UInt8.toNat_toUInt32 byte
  rw [Bool.eq_iff_iff]
  simp [isDigitByte, Char.isDigit, UInt8.le_iff_toNat_le, UInt32.le_iff_toNat_le, value]

theorem isDigitByte_of_mem {c : Char} {byte : UInt8} (member : byte ∈ String.utf8EncodeChar c) :
    isDigitByte byte = c.isDigit := by
  rw [isDigitByte_eq]
  rcases of_mem_utf8EncodeChar member with same | ⟨wide, also⟩
  · rw [same]
  · rw [Bool.eq_false_iff.2 (mt utf8Size_of_isDigit wide),
      Bool.eq_false_iff.2 (mt utf8Size_of_isDigit also)]

/-- The bytes of a text are ASCII digits where its characters are. -/
theorem all_isDigitByte (text : String) :
    (bytes text).all isDigitByte = text.toList.all Char.isDigit := by
  have encoded (characters : List Char) :
      (encode characters).all isDigitByte = characters.all Char.isDigit := by
    induction characters with
    | nil => rfl
    | cons c rest ih =>
      have head : (String.utf8EncodeChar c).all isDigitByte = c.isDigit := by
        obtain ⟨byte, more, spelled⟩ :=
          List.exists_cons_of_ne_nil (String.utf8EncodeChar_ne_nil (c := c))
        rw [Bool.eq_iff_iff, List.all_eq_true]
        constructor
        · intro all
          have first : byte ∈ String.utf8EncodeChar c := by simp [spelled]
          rw [← isDigitByte_of_mem first, all byte first]
        · intro digit other member
          rw [isDigitByte_of_mem member, digit]
      rw [encode_cons, List.all_append, List.all_cons, head, ih]
  rw [bytes_eq, encoded]

/-- The digits that bytes begin with are the digits that their characters begin with. -/
theorem takeWhile_encode (text : List Char) :
    (encode text).takeWhile isDigitByte = encode (text.takeWhile Char.isDigit) := by
  induction text with
  | nil => rfl
  | cons c rest ih =>
    rw [encode_cons, List.takeWhile_cons]
    split
    · rename_i digit
      obtain ⟨byte, encoded, -, -⟩ := utf8EncodeChar_of_ascii (utf8Size_of_isDigit digit)
      have also : isDigitByte byte = true := by
        rw [isDigitByte_of_mem (c := c) (by simp [encoded]), digit]
      rw [encode_cons, encoded, List.singleton_append, List.takeWhile_cons_of_pos also, ih,
        List.singleton_append]
    · rename_i other
      obtain ⟨byte, more, encoded⟩ := List.exists_cons_of_ne_nil (String.utf8EncodeChar_ne_nil (c := c))
      have also : ¬ isDigitByte byte = true := by
        rw [isDigitByte_of_mem (c := c) (by simp [encoded])]
        exact other
      rw [encoded, List.cons_append, List.takeWhile_cons_of_neg also, encode_nil]

/-- The number is read from the bytes of digits as it is from the digits. -/
theorem decimal_encode {digits : List Char} (all : digits.all Char.isDigit = true) :
    decimal (encode digits) = Nat.ofDigitChars 10 digits 0 := by
  have onward (value : Nat) :
      (encode digits).foldl (fun value digit => 10 * value + (digit.toNat - 48)) value =
        Nat.ofDigitChars 10 digits value := by
    induction digits generalizing value with
    | nil => rfl
    | cons c rest ih =>
      simp only [List.all_cons, Bool.and_eq_true] at all
      obtain ⟨byte, encoded, -, same⟩ := utf8EncodeChar_of_ascii (utf8Size_of_isDigit all.1)
      rw [encode_cons, encoded, List.singleton_append, List.foldl_cons, ih all.2, same,
        Nat.ofDigitChars_cons]
      rfl
  exact onward 0

end Forklift.Text
