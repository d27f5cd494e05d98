import Forklift.Command.Token
import Forklift.Text.Bytes

/-! # Token streams

A step starts wherever a command letter, in either case, is directly followed by a digit, and it
goes on to the last digit of the run; any other text is passed over. `tokens` lists all steps of a
text. A `TokenStream` hands them out one by one: it is a place in its source text, so a copy of a
stream goes on from the same place and on its own.
-/

namespace Forklift

/-- The step whose letter is `c`, at an offset and followed by `rest`. -/
def stepAt? (offset : Nat) (c : Char) (rest : List Char) : Option Token := do
  let direction ← Direction.ofLetter? c
  let digits := rest.takeWhile Char.isDigit
  let magnitude ← Magnitude.ofDigits? digits
  return { direction, magnitude, span := ⟨offset, offset + 1 + digits.length⟩ }

/-- All steps of a text that starts at an offset, in their order. -/
def tokensFrom (offset : Nat) : List Char → List Token
  | [] => []
  | c :: rest =>
    match stepAt? offset c rest with
    | some token => token :: tokensFrom (offset + c.utf8Size) rest
    | none => tokensFrom (offset + c.utf8Size) rest

/-- All steps of a text, in their order. -/
def tokens (text : String) : List Token :=
  tokensFrom 0 text.toList

/-- No step starts at a digit, so a run of digits is passed over. -/
theorem tokensFrom_digits (offset : Nat) {digits : List Char} (rest : List Char)
    (all : digits.all Char.isDigit = true) :
    tokensFrom offset (digits ++ rest) = tokensFrom (offset + digits.length) rest := by
  induction digits generalizing offset with
  | nil => rfl
  | cons c tail ih =>
    simp only [List.all_cons, Bool.and_eq_true] at all
    have passed (text : List Char) : stepAt? offset c text = none := by
      simp [stepAt?, Direction.ofLetter?_of_isDigit all.1]
    simp only [List.cons_append, tokensFrom, passed, ih _ all.2,
      Text.utf8Size_of_isDigit all.1, List.length_cons]
    congr 1
    omega

/-- A place in a text from which steps are read. -/
structure TokenStream where
  source : String
  /-- The byte offset of the place. -/
  offset : Nat
  /-- The text from the place on. -/
  rest : List Char
deriving DecidableEq, Repr

namespace TokenStream

/-- The stream at the start of a text. -/
def ofText (source : String) : TokenStream :=
  ⟨source, 0, source.toList⟩

/-- The stream back at the start of its text. -/
def restart (stream : TokenStream) : TokenStream :=
  ofText stream.source

/-- The next step from an offset on, with the offset and the text after its last digit. -/
def seek (offset : Nat) : List Char → Option (Token × Nat × List Char)
  | [] => none
  | c :: rest =>
    match stepAt? offset c rest with
    | some token => some (token, token.span.stop, rest.dropWhile Char.isDigit)
    | none => seek (offset + c.utf8Size) rest

/-- Hands out the next step, if there is one, and goes on behind it. -/
def next? (stream : TokenStream) : Option (Token × TokenStream) :=
  (seek stream.offset stream.rest).map fun (token, offset, rest) =>
    (token, { stream with offset, rest })

/-- A step ends behind its letter, which takes one byte, and its digits. -/
theorem stop_of_stepAt? {offset : Nat} {c : Char} {rest : List Char} {token : Token}
    (found : stepAt? offset c rest = some token) :
    token.span.stop = offset + c.utf8Size + (rest.takeWhile Char.isDigit).length := by
  simp only [stepAt?, bind, Option.bind_eq_some_iff, pure, Option.some.injEq] at found
  obtain ⟨direction, letter, magnitude, -, rfl⟩ := found
  rw [Direction.utf8Size_of_ofLetter? letter]

/-- A step has a digit. -/
theorem takeWhile_ne_nil_of_stepAt? {offset : Nat} {c : Char} {rest : List Char} {token : Token}
    (found : stepAt? offset c rest = some token) : rest.takeWhile Char.isDigit ≠ [] := by
  simp only [stepAt?, bind, Option.bind_eq_some_iff, pure, Option.some.injEq] at found
  obtain ⟨direction, -, magnitude, digits, -⟩ := found
  exact (Magnitude.ofDigits?_isSome.1 (Option.isSome_of_mem digits)).1

/-- Seeking goes on behind the step that it finds, which takes two bytes or more. -/
theorem split_of_seek {offset stop : Nat} {text rest : List Char} {token : Token}
    (found : seek offset text = some (token, stop, rest)) :
    ∃ passed, text = passed ++ rest ∧ stop = offset + Text.byteLength passed ∧
      2 ≤ Text.byteLength passed ∧ token.span.stop = stop := by
  induction text generalizing offset with
  | nil => simp [seek] at found
  | cons c tail ih =>
    simp only [seek] at found
    split at found
    · rename_i here
      simp only [Option.some.injEq, Prod.mk.injEq] at found
      obtain ⟨rfl, rfl, rfl⟩ := found
      have digits := List.length_pos_iff.2 (takeWhile_ne_nil_of_stepAt? here)
      have size : Text.byteLength (c :: tail.takeWhile Char.isDigit) =
          c.utf8Size + (tail.takeWhile Char.isDigit).length := by
        rw [Text.byteLength_cons, Text.byteLength_of_all_isDigit List.all_takeWhile]
      refine ⟨c :: tail.takeWhile Char.isDigit, ?_, ?_, ?_, rfl⟩
      · rw [List.cons_append, List.takeWhile_append_dropWhile]
      · rw [stop_of_stepAt? here, size, Nat.add_assoc]
      · have := c.utf8Size_pos
        omega
    · obtain ⟨passed, rfl, rfl, large, same⟩ := ih found
      refine ⟨c :: passed, rfl, ?_, ?_, same⟩
      · rw [Text.byteLength_cons, Nat.add_assoc]
      · rw [Text.byteLength_cons]
        omega

/-- The next step lies between the places of a stream before and after it. -/
theorem split_of_next? {stream after : TokenStream} {token : Token}
    (found : stream.next? = some (token, after)) :
    after.source = stream.source ∧ token.span.stop = after.offset ∧
      ∃ passed, stream.rest = passed ++ after.rest ∧
        after.offset = stream.offset + Text.byteLength passed ∧ 2 ≤ Text.byteLength passed := by
  simp only [next?, Option.map_eq_some_iff] at found
  obtain ⟨⟨token', offset, rest⟩, sought, same⟩ := found
  simp only [Prod.mk.injEq] at same
  obtain ⟨rfl, rfl⟩ := same
  obtain ⟨passed, split, place, large, stop⟩ := split_of_seek sought
  exact ⟨rfl, stop, passed, split, place, large⟩

theorem length_next? {stream after : TokenStream} {token : Token}
    (found : stream.next? = some (token, after)) : after.rest.length < stream.rest.length := by
  obtain ⟨-, -, passed, split, -, large⟩ := split_of_next? found
  have some_char : 0 < passed.length := by
    apply List.length_pos_iff.2
    rintro rfl
    exact absurd large (by decide)
  rw [split, List.length_append]
  omega

/-- Hands out up to `count` steps and goes on behind the last of them. -/
def take (count : Nat) (stream : TokenStream) : List Token × TokenStream :=
  match count with
  | 0 => ([], stream)
  | count + 1 =>
    match stream.next? with
    | none => ([], stream)
    | some (token, after) =>
      let (more, last) := after.take count
      (token :: more, last)

/-- Hands out all remaining steps and stays where no step is left. -/
def drain (stream : TokenStream) : List Token × TokenStream :=
  match _h : stream.next? with
  | none => ([], stream)
  | some (token, after) =>
    let (more, last) := after.drain
    (token :: more, last)
termination_by stream.rest.length
decreasing_by exact length_next? _h

/-- The steps that are left, without moving. -/
def toList (stream : TokenStream) : List Token :=
  stream.drain.1

/-! ## What a stream hands out -/

theorem tokensFrom_of_seek_eq_none {offset : Nat} {text : List Char}
    (ended : seek offset text = none) : tokensFrom offset text = [] := by
  induction text generalizing offset with
  | nil => rfl
  | cons c rest ih =>
    simp only [seek] at ended
    split at ended
    · contradiction
    · rename_i passed
      simp only [tokensFrom, passed, ih ended]

/-- Seeking finds the first step and goes on where the other steps are. -/
theorem tokensFrom_of_seek_eq_some {offset stop : Nat} {text rest : List Char} {token : Token}
    (found : seek offset text = some (token, stop, rest)) :
    tokensFrom offset text = token :: tokensFrom stop rest := by
  induction text generalizing offset with
  | nil => simp only [seek, reduceCtorEq] at found
  | cons c tail ih =>
    simp only [seek] at found
    split at found
    · rename_i head here
      simp only [Option.some.injEq, Prod.mk.injEq] at found
      obtain ⟨rfl, rfl, rfl⟩ := found
      have skipped := tokensFrom_digits (offset + c.utf8Size)
        (tail.dropWhile Char.isDigit) (List.all_takeWhile (p := Char.isDigit) (l := tail))
      rw [List.takeWhile_append_dropWhile] at skipped
      simp only [tokensFrom, here, skipped, stop_of_stepAt? here]
    · rename_i passed
      simp only [tokensFrom, passed, ih found]

theorem toList_eq_tokensFrom (stream : TokenStream) :
    stream.toList = tokensFrom stream.offset stream.rest := by
  unfold toList
  fun_induction drain stream with
  | case1 stream ended =>
    simp only [next?, Option.map_eq_none_iff] at ended
    exact (tokensFrom_of_seek_eq_none ended).symm
  | case2 stream token after found more last drained ih =>
    simp only [next?, Option.map_eq_some_iff] at found
    obtain ⟨⟨token', offset, rest⟩, sought, same⟩ := found
    simp only [Prod.mk.injEq] at same
    obtain ⟨rfl, rfl⟩ := same
    rw [drained] at ih
    rw [tokensFrom_of_seek_eq_some sought, ← ih]

/-- A stream from the start of a text hands out all its steps. -/
theorem toList_ofText (text : String) : (ofText text).toList = tokens text :=
  toList_eq_tokensFrom (ofText text)

end TokenStream

end Forklift
