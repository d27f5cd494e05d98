import Forklift.Command.TokenStream
import Forklift.Text.Slice
import Forklift.Text.Utf8

/-! # Token streams over bytes

The same steps found by looking at bytes: one that is an ASCII letter of a direction, directly followed
by one that is an ASCII digit. What is found is then sliced out of the text. A slice that cuts a
character, digits that are refused and a span that is reversed are answers of their own, so that it
can be said that they are never given.
-/

namespace Forklift

/-- The direction of the step that begins at a byte, if one does. -/
def directionAt? (bytes : List UInt8) (start : Nat) : Option Direction :=
  match bytes[start]?, bytes[start + 1]? with
  | some letter, some next =>
    if Text.isDigitByte next then Direction.ofLetter? (Char.ofUInt8 letter) else none
  | _, _ => none

/-- The whole run of digits that begins at a byte. -/
def digitsAt (bytes : List UInt8) (start : Nat) : List UInt8 :=
  (bytes.drop start).takeWhile Text.isDigitByte

/-- The step that begins at a byte, if one does: its letter and all digits that follow it. -/
def tokenAt? (bytes : List UInt8) (start : Nat) : Option Token :=
  (directionAt? bytes start).map fun direction =>
    ⟨direction, ⟨Text.decimal (digitsAt bytes (start + 1))⟩,
      ⟨start, start + 1 + (digitsAt bytes (start + 1)).length⟩⟩

/-- The steps that begin at a byte or behind it, in their order. -/
def tokensBehind (bytes : List UInt8) (start : Nat) : List Token :=
  (List.range' start (bytes.length - start)).filterMap (tokenAt? bytes)

/-- A place in a text, told as a byte offset. -/
structure ByteStream where
  source : String
  offset : Nat
deriving DecidableEq, Repr

namespace ByteStream

/-- What a stream answers when it is asked for the next step. -/
inductive Answer where
  | step (token : Token)
  /-- No step is left. -/
  | ended
  /-- The digits of a step are not taken for a number. -/
  | refusedDigits
  /-- The digits of a step do not start or end between characters. -/
  | cutCharacter
  | reversedSpan (bounds : ReversedSpan)
deriving DecidableEq, Repr

/-- The stream at the start of a text. -/
def ofText (source : String) : ByteStream :=
  ⟨source, 0⟩

/-- The next byte at which a step begins, and its direction. -/
def seek (bytes : List UInt8) (start : Nat) : Option (Nat × Direction) :=
  if start + 1 < bytes.length then
    match directionAt? bytes start with
    | some direction => some (start, direction)
    | none => seek bytes (start + 1)
  else none
termination_by bytes.length - start

/-- The end of the digits that begin at a byte. -/
def digitsEnd (bytes : List UInt8) (start : Nat) : Nat :=
  if inside : start < bytes.length then
    if Text.isDigitByte bytes[start] then digitsEnd bytes (start + 1) else start
  else start
termination_by bytes.length - start

/-- The step whose letter and digits lie between two byte offsets. -/
def stepBetween (source : String) (direction : Direction) (start stop : Nat) : Answer :=
  match Text.slice? source (start + 1) stop with
  | none => .cutCharacter
  | some digits =>
    match Magnitude.ofDigits? digits.toList with
    | none => .refusedDigits
    | some magnitude =>
      match Span.between start stop with
      | .error bounds => .reversedSpan bounds
      | .ok span => .step ⟨direction, magnitude, span⟩

/-- Answers with the next step, if there is one, and goes on behind its digits. -/
def next (stream : ByteStream) : Answer × ByteStream :=
  let bytes := Text.bytes stream.source
  match seek bytes stream.offset with
  | none => (.ended, stream)
  | some (start, direction) =>
    let stop := digitsEnd bytes (start + 1)
    (stepBetween stream.source direction start stop, { stream with offset := stop })

/-- The stream after it has been asked a number of times. -/
def after (stream : ByteStream) : Nat → ByteStream
  | 0 => stream
  | count + 1 => stream.next.2.after count

/-- The answer to a question, where the first one is number 0. -/
def answer (stream : ByteStream) (count : Nat) : Answer :=
  (stream.after count).next.1

end ByteStream

/-! ## The steps at bytes -/

variable {bytes : List UInt8} {start : Nat}

/-- A step takes at least two bytes. -/
theorem lt_length_of_directionAt? {direction : Direction}
    (begins : directionAt? bytes start = some direction) : start + 1 < bytes.length := by
  unfold directionAt? at begins
  split at begins
  · rename_i letter next _ present
    exact (List.getElem?_eq_some_iff.1 present).1
  · contradiction

theorem tokenAt?_of_not_lt (none_behind : ¬ start + 1 < bytes.length) :
    tokenAt? bytes start = none := by
  rw [tokenAt?, Option.map_eq_none_iff, Option.eq_none_iff_forall_ne_some]
  intro direction begins
  exact none_behind (lt_length_of_directionAt? begins)

/-- A step begins at a letter that has digits behind it. -/
theorem directionAt?_eq (bytes : List UInt8) (start : Nat) :
    directionAt? bytes start =
      if digitsAt bytes (start + 1) = [] then none
      else bytes[start]?.bind fun letter => Direction.ofLetter? (Char.ofUInt8 letter) := by
  by_cases inside : start + 1 < bytes.length
  · have first : start < bytes.length := Nat.lt_of_succ_lt inside
    simp only [directionAt?, digitsAt, List.getElem?_eq_getElem inside, List.getElem?_eq_getElem first,
      List.drop_eq_getElem_cons inside, List.takeWhile_cons, Option.bind_some]
    split <;> simp
  · rw [digitsAt, List.drop_eq_nil_of_le (Nat.le_of_not_lt inside), List.takeWhile_nil, if_pos rfl,
      Option.eq_none_iff_forall_ne_some]
    intro direction begins
    exact inside (lt_length_of_directionAt? begins)

/-- No step begins at a digit. -/
theorem directionAt?_of_isDigitByte (inside : start < bytes.length)
    (digit : Text.isDigitByte bytes[start] = true) : directionAt? bytes start = none := by
  rw [Text.isDigitByte_eq] at digit
  unfold directionAt?
  split
  · rename_i letter next present _
    obtain ⟨-, rfl⟩ := List.getElem?_eq_some_iff.1 present
    rw [Direction.ofLetter?_of_isDigit digit, ite_self]
  · rfl

/-- The steps behind a byte, cut at a later byte. -/
theorem tokensBehind_add {count : Nat} (inside : start + count ≤ bytes.length) :
    tokensBehind bytes start =
      (List.range' start count).filterMap (tokenAt? bytes) ++ tokensBehind bytes (start + count) := by
  have length : bytes.length - start = count + (bytes.length - (start + count)) := by omega
  rw [tokensBehind, length, ← List.range'_append_1, List.filterMap_append, tokensBehind]

theorem tokensBehind_of_lt (inside : start < bytes.length) :
    tokensBehind bytes start = (tokenAt? bytes start).toList ++ tokensBehind bytes (start + 1) := by
  have first : start + 1 ≤ bytes.length := inside
  rw [tokensBehind_add first, List.range'_one, List.filterMap_cons, List.filterMap_nil]
  cases tokenAt? bytes start <;> rfl

theorem tokensBehind_of_not_lt (none_behind : ¬ start + 1 < bytes.length) :
    tokensBehind bytes start = [] := by
  have outside {place : Nat} (beyond : bytes.length ≤ place) : tokensBehind bytes place = [] := by
    rw [tokensBehind, Nat.sub_eq_zero_of_le beyond]
    rfl
  by_cases last : start < bytes.length
  · rw [tokensBehind_of_lt last, tokenAt?_of_not_lt none_behind, outside (Nat.le_of_not_lt none_behind)]
    rfl
  · exact outside (Nat.le_of_not_lt last)

namespace ByteStream

/-- What seeking passes over has no step in it. -/
theorem tokensBehind_of_seek_eq_none (ended : seek bytes start = none) :
    tokensBehind bytes start = [] := by
  fun_induction seek bytes start with
  | case1 start inside direction begins => contradiction
  | case2 start inside passed ih =>
    rw [tokensBehind_of_lt (Nat.lt_of_succ_lt inside), tokenAt?, passed, ih ended]
    rfl
  | case3 start outside => exact tokensBehind_of_not_lt outside

/-- Seeking finds the first step that begins at a byte or behind it. -/
theorem tokensBehind_of_seek_eq_some {place : Nat} {direction : Direction}
    (found : seek bytes start = some (place, direction)) :
    directionAt? bytes place = some direction ∧ ∃ token, tokenAt? bytes place = some token ∧
      tokensBehind bytes start = token :: tokensBehind bytes (place + 1) := by
  fun_induction seek bytes start with
  | case1 start inside direction begins =>
    obtain ⟨rfl, rfl⟩ := Prod.mk.inj (Option.some.inj found)
    obtain ⟨token, here⟩ : ∃ token, tokenAt? bytes start = some token := by
      rw [tokenAt?, begins]
      exact ⟨_, rfl⟩
    refine ⟨begins, token, here, ?_⟩
    rw [tokensBehind_of_lt (Nat.lt_of_succ_lt inside), here]
    rfl
  | case2 start inside passed ih =>
    obtain ⟨begins, token, here, behind⟩ := ih found
    refine ⟨begins, token, here, ?_⟩
    rw [tokensBehind_of_lt (Nat.lt_of_succ_lt inside), tokenAt?, passed, behind]
    rfl
  | case3 start outside => contradiction

theorem digitsEnd_eq (bytes : List UInt8) (start : Nat) :
    digitsEnd bytes start = start + (digitsAt bytes start).length := by
  fun_induction digitsEnd bytes start with
  | case1 start inside digit ih =>
    rw [ih, digitsAt, digitsAt, List.drop_eq_getElem_cons inside, List.takeWhile_cons_of_pos digit,
      List.length_cons]
    omega
  | case2 start inside other =>
    rw [digitsAt, List.drop_eq_getElem_cons inside, List.takeWhile_cons_of_neg other]
    rfl
  | case3 start outside =>
    rw [digitsAt, List.drop_eq_nil_of_le (Nat.le_of_not_lt outside)]
    rfl

/-- Digits are passed over without losing a step. -/
theorem tokensBehind_digitsEnd (bytes : List UInt8) (start : Nat) :
    tokensBehind bytes (digitsEnd bytes start) = tokensBehind bytes start := by
  fun_induction digitsEnd bytes start with
  | case1 start inside digit ih =>
    rw [ih, tokensBehind_of_lt inside, tokenAt?, directionAt?_of_isDigitByte inside digit]
    rfl
  | case2 => rfl
  | case3 => rfl

end ByteStream

end Forklift
