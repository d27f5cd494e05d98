import Forklift.Command.LeadingZeros
import Forklift.Json.Printer
import Forklift.Json.Token

/-! # Written tokens

What is written between quotes is read back character by character, whether a character was escaped or
not. The digits of a number are read back where what follows them cannot be part of a number.
-/

namespace Forklift.Json

/-! ## Strings -/

namespace Piece

/-- What an escaped character is read back as. A control character without an escape of its own is
given by its number. -/
def ofEscaped (c : Char) : Piece :=
  if c < ' ' ∧ c ∉ ['\x08', '\x0c', '\n', '\r', '\t'] then .unit c.toNat else .char c

/-- The two digits by which a control character is written tell its number. -/
theorem hexUnit?_control : ∀ n < 32,
    hexUnit? '0' '0' (hexDigit (n / 16)) (hexDigit n) = some n := by
  decide

theorem toNat_lt_of_lt_space {c : Char} (control : c < ' ') : c.toNat < 32 :=
  control

theorem read?_visible {c : Char} (quote : c ≠ '"') (backslash : c ≠ '\\') (visible : ¬ c < ' ')
    (done : List Piece) (rest : List Char) :
    read? done (c :: rest) = read? (.char c :: done) rest := by
  rw [read?.eq_def]
  split
  case h_13 =>
    rename_i same
    obtain ⟨rfl, rfl⟩ := List.cons.inj same
    exact if_neg visible
  all_goals simp_all

/-- An escaped character is read as one piece. -/
theorem read?_escape (c : Char) (done : List Piece) (rest : List Char) :
    read? done (escape c ++ rest) = read? (ofEscaped c :: done) rest := by
  unfold escape
  -- The first seven characters have an escape of their own.
  iterate 7
    split
    · subst_vars
      rfl
  split
  · rename_i control
    have number := hexUnit?_control c.toNat (toNat_lt_of_lt_space control)
    simp [read?, ofEscaped, *]
  · rename_i quote backslash _ _ _ _ _ visible
    have itself : ofEscaped c = .char c := if_neg fun control => visible control.1
    rw [itself, List.singleton_append, read?_visible quote backslash visible]

/-- The text between quotes is read to its closing quote. -/
theorem read?_escapes (characters : List Char) (done : List Piece) (rest : List Char) :
    read? done (characters.flatMap escape ++ '"' :: rest) =
      some (done.reverse ++ characters.map ofEscaped, rest) := by
  induction characters generalizing done with
  | nil => simp [read?]
  | cons c more ih =>
    rw [List.flatMap_cons, List.append_assoc, read?_escape, ih]
    simp

theorem text?_unit {n : Nat} (high : isHighSurrogate n = false) (low : isLowSurrogate n = false)
    (done : List Char) (rest : List Piece) :
    text? done (.unit n :: rest) = text? (Char.ofNat n :: done) rest := by
  cases rest with
  | nil => simp [text?, high, low]
  | cons piece more => cases piece <;> simp [text?, high, low]

theorem text?_map_ofEscaped (characters done : List Char) :
    text? done (characters.map ofEscaped) = some (done.reverse ++ characters) := by
  induction characters generalizing done with
  | nil => simp [text?]
  | cons c more ih =>
    have pushed : text? done (ofEscaped c :: more.map ofEscaped) =
        text? (c :: done) (more.map ofEscaped) := by
      unfold ofEscaped
      split
      · rename_i control
        have small := toNat_lt_of_lt_space control.1
        have high : isHighSurrogate c.toNat = false := by simp [isHighSurrogate]; omega
        have low : isLowSurrogate c.toNat = false := by simp [isLowSurrogate]; omega
        rw [text?_unit high low, Char.ofNat_toNat]
      · rfl
    rw [List.map_cons, pushed, ih]
    simp

end Piece

/-- A written string is one token, whatever follows it. -/
theorem Token.read?_quoted (s : String) (rest : List Char) :
    read? '"' (s.toList.flatMap escape ++ '"' :: rest) = some (.string (some s), rest) := by
  have pieces := Piece.read?_escapes s.toList [] rest
  have text := Piece.text?_map_ofEscaped s.toList []
  simp only [List.reverse_nil, List.nil_append] at pieces text
  simp only [read?, pieces, Option.map_some, text, String.ofList_toList]

/-! ## Numbers -/

/-- Whether a token ends in front of a text: nothing follows, or a blank, a comma or a closing
bracket. -/
def Token.EndsBefore (rest : List Char) : Prop :=
  ∀ c ∈ rest.head?, isBlank c = true ∨ c = ',' ∨ c = ']' ∨ c = '\x7d'

namespace Numeral

open Json.Token (EndsBefore)

/-- What a token ends in front of does not go on with a number. -/
theorem not_continued {c : Char} {rest : List Char} (ends : EndsBefore (c :: rest)) :
    c.isDigit = false ∧ c ≠ '.' ∧ c ≠ 'e' ∧ c ≠ 'E' := by
  have follows := ends c rfl
  simp only [Token.isBlank, Bool.or_eq_true, decide_eq_true_eq] at follows
  obtain (((rfl | rfl) | rfl) | rfl) | rfl | rfl | rfl := follows <;> decide

/-- The digits of a number do not start with a zero unless they are one zero. -/
theorem toDigits_ne_zero_cons (n : Nat) (c : Char) (more : List Char) :
    Nat.toDigits 10 n ≠ '0' :: c :: more := by
  intro leading
  have all : (c :: more).all Char.isDigit = true := by
    rw [List.all_eq_true]
    intro digit member
    refine Nat.isDigit_of_mem_toDigits (b := 10) (n := n) (by decide) (by decide) ?_
    rw [leading]
    exact List.mem_cons_of_mem _ member
  have value : Nat.ofDigitChars 10 (c :: more) 0 = n := by
    calc Nat.ofDigitChars 10 (c :: more) 0
      _ = Nat.ofDigitChars 10 ('0' :: c :: more) 0 := rfl
      _ = n := by rw [← leading, Nat.ofDigitChars_ten_toDigits]
  have shorter := Magnitude.length_toDigits_ofDigitChars_le (List.cons_ne_nil c more) all
  rw [value, leading, List.length_cons] at shorter
  omega

theorem readWhole?_toDigits (n : Nat) {rest : List Char} (ends : EndsBefore rest) :
    readWhole? (Nat.toDigits 10 n ++ rest) = some (Nat.toDigits 10 n, rest) := by
  have digits : ∀ c ∈ Nat.toDigits 10 n, c.isDigit = true := fun _ member =>
    Nat.isDigit_of_mem_toDigits (by decide) (by decide) member
  have none_left : rest.takeWhile Char.isDigit = [] ∧ rest.dropWhile Char.isDigit = rest := by
    cases rest with
    | nil => exact ⟨rfl, rfl⟩
    | cons c more => simp [(not_continued ends).1]
  have taken : (Nat.toDigits 10 n ++ rest).takeWhile Char.isDigit = Nat.toDigits 10 n := by
    rw [List.takeWhile_append_of_pos digits, none_left.1, List.append_nil]
  have left : (Nat.toDigits 10 n ++ rest).dropWhile Char.isDigit = rest := by
    rw [List.dropWhile_append_of_pos digits, none_left.2]
  unfold readWhole?
  rw [taken, left]
  split
  · rename_i empty
    exact absurd empty Nat.toDigits_ne_nil
  · rename_i leading
    exact absurd leading (toDigits_ne_zero_cons n _ _)
  · rfl

theorem readFraction?_of_endsBefore {rest : List Char} (ends : EndsBefore rest) :
    readFraction? rest = some (none, rest) := by
  unfold readFraction?
  split
  · exact absurd rfl (not_continued ends).2.1
  · rfl

theorem readExponent?_of_endsBefore {rest : List Char} (ends : EndsBefore rest) :
    readExponent? rest = some (none, rest) := by
  cases rest with
  | nil => rfl
  | cons c more =>
    obtain ⟨-, -, small, large⟩ := not_continued ends
    simp [readExponent?, small, large]

theorem exists_toDigits_eq_cons (n : Nat) :
    ∃ c more, Nat.toDigits 10 n = c :: more ∧ c.isDigit = true := by
  obtain ⟨c, more, digits⟩ := List.exists_cons_of_ne_nil (Nat.toDigits_ne_nil (n := n) (b := 10))
  have first : c ∈ Nat.toDigits 10 n := by
    rw [digits]
    exact List.mem_cons_self
  exact ⟨c, more, digits, Nat.isDigit_of_mem_toDigits (by decide) (by decide) first⟩

/-- A natural number is read back from its digits. -/
theorem read?_toDigits (n : Nat) {rest : List Char} (ends : EndsBefore rest) :
    read? (Nat.toDigits 10 n ++ rest) = some (.ofNat n, rest) := by
  have unsigned : read? (Nat.toDigits 10 n ++ rest) =
      readUnsigned? false (Nat.toDigits 10 n ++ rest) := by
    obtain ⟨c, more, digits, digit⟩ := exists_toDigits_eq_cons n
    rw [digits, List.cons_append]
    unfold read?
    split
    · rename_i minus
      rw [(List.cons.inj minus).1] at digit
      cases digit
    · rfl
  rw [unsigned]
  simp only [readUnsigned?, readWhole?_toDigits n ends, readFraction?_of_endsBefore ends,
    readExponent?_of_endsBefore ends, Option.bind_eq_bind, Option.bind_some, Option.pure_def]
  rfl

theorem spell_ofNat (n : Nat) : (ofNat n).spell = Nat.toDigits 10 n := by
  simp [ofNat, spell]

end Numeral

theorem Token.word?_append (token : Token) (word rest : List Char) :
    word? token word (word ++ rest) = some (token, rest) := by
  simp [word?]

/-- What starts with a digit is a number. -/
theorem Token.read?_of_isDigit {c : Char} (digit : c.isDigit = true) (rest : List Char) :
    read? c rest = (Numeral.read? (c :: rest)).map fun (n, rest) => (.number n, rest) := by
  unfold read?
  split
  case h_11 => rfl
  all_goals cases digit

end Forklift.Json
