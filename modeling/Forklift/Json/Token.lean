import Forklift.Json.Numeral

/-! # JSON tokens

The marks, words, numerals and strings that a JSON text is made of, with the blanks between them
dropped. A string may spell half of a surrogate pair; such a string is a token but has no text.
-/

namespace Forklift.Json

/-- A token of JSON. -/
inductive Token where
  | openObject
  | closeObject
  | openArray
  | closeArray
  | colon
  | comma
  | null
  | bool (b : Bool)
  | number (n : Numeral)
  /-- A string and its text, unless its escapes spell none. -/
  | string (text : Option String)
deriving DecidableEq, Repr

/-- What stands between quotes: characters, and code units of UTF-16 given by number. -/
inductive Piece where
  | char (c : Char)
  | unit (n : Nat)
deriving DecidableEq, Repr

namespace Piece

/-- The value of a hexadecimal digit in either case. -/
def hexValue? (c : Char) : Option Nat :=
  if c.isDigit then some (c.toNat - '0'.toNat)
  else if 'a' ≤ c && c ≤ 'f' then some (c.toNat - 'a'.toNat + 10)
  else if 'A' ≤ c && c ≤ 'F' then some (c.toNat - 'A'.toNat + 10)
  else none

/-- The number that four hexadecimal digits spell. -/
def hexUnit? (a b c d : Char) : Option Nat := do
  let a ← hexValue? a
  let b ← hexValue? b
  let c ← hexValue? c
  let d ← hexValue? d
  return ((a * 16 + b) * 16 + c) * 16 + d

/-- The pieces up to the closing quote, and the text after it. Control characters must be escaped. -/
def read? (done : List Piece) : List Char → Option (List Piece × List Char)
  | [] => none
  | '"' :: rest => some (done.reverse, rest)
  | '\\' :: 'u' :: a :: b :: c :: d :: rest =>
    match hexUnit? a b c d with
    | some n => read? (.unit n :: done) rest
    | none => none
  | '\\' :: '"' :: rest => read? (.char '"' :: done) rest
  | '\\' :: '\\' :: rest => read? (.char '\\' :: done) rest
  | '\\' :: '/' :: rest => read? (.char '/' :: done) rest
  | '\\' :: 'b' :: rest => read? (.char '\x08' :: done) rest
  | '\\' :: 'f' :: rest => read? (.char '\x0c' :: done) rest
  | '\\' :: 'n' :: rest => read? (.char '\n' :: done) rest
  | '\\' :: 'r' :: rest => read? (.char '\r' :: done) rest
  | '\\' :: 't' :: rest => read? (.char '\t' :: done) rest
  | '\\' :: _ => none
  | c :: rest => if c < ' ' then none else read? (.char c :: done) rest

def isHighSurrogate (n : Nat) : Bool :=
  0xd800 ≤ n && n < 0xdc00

def isLowSurrogate (n : Nat) : Bool :=
  0xdc00 ≤ n && n < 0xe000

/-- The text that pieces add up to. A high surrogate needs a low one next to it, and a low one must
not stand alone. -/
def text? (done : List Char) : List Piece → Option (List Char)
  | [] => some done.reverse
  | .char c :: rest => text? (c :: done) rest
  | .unit high :: .unit low :: rest =>
    if isHighSurrogate high then
      if isLowSurrogate low then
        text? (Char.ofNat (0x10000 + (high - 0xd800) * 0x400 + (low - 0xdc00)) :: done) rest
      else none
    else if isLowSurrogate high then none
    else text? (Char.ofNat high :: done) (.unit low :: rest)
  | .unit n :: rest =>
    if isHighSurrogate n || isLowSurrogate n then none else text? (Char.ofNat n :: done) rest

/-- Reading a string shortens the text. -/
theorem length_read? {done pieces : List Piece} {text rest : List Char}
    (found : read? done text = some (pieces, rest)) : rest.length < text.length := by
  fun_induction read? done text <;> simp_all <;> omega

end Piece

namespace Token

/-- The blanks of JSON: space, tab, line feed and carriage return. -/
def isBlank (c : Char) : Bool :=
  c = ' ' || c = '\t' || c = '\n' || c = '\r'

/-- The token `token` if the rest of its word follows. -/
def word? (token : Token) (rest text : List Char) : Option (Token × List Char) :=
  if rest.isPrefixOf text then some (token, text.drop rest.length) else none

/-- The token that starts with `c`, and the text after it. -/
def read? (c : Char) (rest : List Char) : Option (Token × List Char) :=
  match c with
  | '\x7b' => some (openObject, rest)
  | '\x7d' => some (closeObject, rest)
  | '[' => some (openArray, rest)
  | ']' => some (closeArray, rest)
  | ':' => some (colon, rest)
  | ',' => some (comma, rest)
  | 'n' => word? null ['u', 'l', 'l'] rest
  | 't' => word? (bool true) ['r', 'u', 'e'] rest
  | 'f' => word? (bool false) ['a', 'l', 's', 'e'] rest
  | '"' =>
    (Piece.read? [] rest).map fun (pieces, rest) =>
      (string ((Piece.text? [] pieces).map String.ofList), rest)
  | c => (Numeral.read? (c :: rest)).map fun (n, rest) => (number n, rest)

theorem length_word? {token found : Token} {word text rest : List Char}
    (read : word? token word text = some (found, rest)) : rest.length ≤ text.length := by
  simp only [word?] at read
  split at read
  · simp only [Option.some.injEq, Prod.mk.injEq] at read
    simp [← read.2]
  · contradiction

theorem length_read? {c : Char} {text rest : List Char} {token : Token}
    (read : read? c text = some (token, rest)) : rest.length ≤ text.length := by
  simp only [read?] at read
  split at read
  case h_7 | h_8 | h_9 => exact length_word? read
  case h_10 =>
    obtain ⟨⟨pieces, after⟩, found, same⟩ := Option.map_eq_some_iff.1 read
    simp only [Prod.mk.injEq] at same
    have := Piece.length_read? found
    rw [← same.2]
    omega
  case h_11 =>
    obtain ⟨⟨n, after⟩, found, same⟩ := Option.map_eq_some_iff.1 read
    simp only [Prod.mk.injEq] at same
    have := Numeral.length_read? found
    rw [← same.2]
    simp only [List.length_cons] at this
    omega
  all_goals
    simp only [Option.some.injEq, Prod.mk.injEq] at read
    simp [← read.2]

end Token

end Forklift.Json
