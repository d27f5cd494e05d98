import Forklift.Command.ByteStream

/-! # Where steps are found

The steps of any text are found at the bytes where they begin: one for each ASCII letter of a direction
that is directly followed by an ASCII digit, and no other. Each takes all digits that follow, so the
steps lie apart. Reading over characters and reading over bytes come to the same steps, and nothing
that could go wrong with a step does.
-/

namespace Forklift

open Text (encode)

variable {c : Char} {rest : List Char}

/-! ## Steps at characters and at bytes -/

theorem tokenAt?_append (front back : List UInt8) (start : Nat) :
    tokenAt? (front ++ back) (front.length + start) =
      (tokenAt? back start).map (Token.shift front.length) := by
  have direction : directionAt? (front ++ back) (front.length + start) =
      directionAt? back start := by
    simp only [directionAt?, Nat.add_assoc, List.getElem?_append_right (Nat.le_add_right _ _),
      Nat.add_sub_cancel_left]
  have digits : digitsAt (front ++ back) (front.length + start + 1) =
      digitsAt back (start + 1) := by
    rw [digitsAt, Nat.add_assoc, List.drop_length_add_append, digitsAt]
  simp only [tokenAt?, direction, digits, Option.map_map]
  congr 1
  funext found
  simp only [Function.comp_apply, Token.shift, Span.shift, Nat.add_assoc]

theorem stepAt?_eq_map_shift (offset : Nat) (c : Char) (rest : List Char) :
    stepAt? offset c rest = (stepAt? 0 c rest).map (Token.shift offset) := by
  cases letter : Direction.ofLetter? c with
  | none => simp [stepAt?, letter]
  | some direction =>
    cases digits : Magnitude.ofDigits? (rest.takeWhile Char.isDigit) with
    | none => simp [stepAt?, letter, digits]
    | some magnitude => simp [stepAt?, letter, digits, Token.shift, Span.shift, Nat.add_assoc]

/-- At the byte of an ASCII character a step begins where one begins at the character. -/
theorem tokenAt?_of_ascii (ascii : c.utf8Size = 1) :
    tokenAt? (encode (c :: rest)) 0 = stepAt? 0 c rest := by
  obtain ⟨byte, encoded, same, -⟩ := Text.utf8EncodeChar_of_ascii ascii
  have all : (rest.takeWhile Char.isDigit).all Char.isDigit = true := List.all_takeWhile
  have digits : digitsAt (byte :: encode rest) 1 = encode (rest.takeWhile Char.isDigit) := by
    rw [← Text.takeWhile_encode]
    rfl
  have count : (encode (rest.takeWhile Char.isDigit)).length =
      (rest.takeWhile Char.isDigit).length := by
    rw [Text.length_encode, Text.byteLength_of_all_isDigit all]
  have read : Text.decimal (encode (rest.takeWhile Char.isDigit)) =
      Nat.ofDigitChars 10 (rest.takeWhile Char.isDigit) 0 := Text.decimal_encode all
  rw [Text.encode_cons, encoded, List.singleton_append, tokenAt?, directionAt?_eq, digits, count, read,
    List.getElem?_cons_zero, Option.bind_some, same]
  cases letter : Direction.ofLetter? c with
  | none => simp [stepAt?, letter]
  | some direction =>
    by_cases bare : rest.takeWhile Char.isDigit = []
    · simp [stepAt?, letter, Magnitude.ofDigits?, bare]
    · have written : encode (rest.takeWhile Char.isDigit) ≠ [] := by
        rw [← List.length_pos_iff, count]
        exact List.length_pos_iff.2 bare
      rw [if_neg written]
      simp [stepAt?, letter, Magnitude.ofDigits?, bare, all]

/-- Within a character of several bytes no step begins. -/
theorem tokenAt?_of_wide (wide : c.utf8Size ≠ 1) {start : Nat} (inside : start < c.utf8Size) :
    tokenAt? (encode (c :: rest)) start = none := by
  have bound : start < (String.utf8EncodeChar c).length := by
    rwa [String.length_utf8EncodeChar]
  have here : (encode (c :: rest))[start]? = some (String.utf8EncodeChar c)[start] := by
    rw [Text.encode_cons, List.getElem?_append_left bound, List.getElem?_eq_getElem bound]
  have large := Text.le_of_mem_utf8EncodeChar wide (List.getElem_mem bound)
  have noLetter : Direction.ofLetter? (Char.ofUInt8 (String.utf8EncodeChar c)[start]) = none :=
    Direction.ofLetter?_of_utf8Size_ne (Text.utf8Size_ofUInt8 large)
  rw [tokenAt?, directionAt?_eq, here, Option.bind_some, noLetter, ite_self, Option.map_none]

theorem tokensBehind_append (front back : List UInt8) :
    tokensBehind (front ++ back) front.length =
      (tokensBehind back 0).map (Token.shift front.length) := by
  have places : List.range' front.length back.length =
      (List.range' 0 back.length).map (front.length + ·) := by
    rw [List.map_add_range', Nat.add_zero]
  rw [tokensBehind, List.length_append, Nat.add_sub_cancel_left, places, List.filterMap_map,
    tokensBehind, Nat.sub_zero, List.map_filterMap]
  congr 1
  funext start
  exact tokenAt?_append front back start

/-- The bytes of the first character have a step where the character has one. -/
theorem tokensBehind_encode_cons (c : Char) (rest : List Char) :
    tokensBehind (encode (c :: rest)) 0 =
      (stepAt? 0 c rest).toList ++
        (tokensBehind (encode rest) 0).map (Token.shift c.utf8Size) := by
  have length : (String.utf8EncodeChar c).length = c.utf8Size := String.length_utf8EncodeChar c
  have inside : 0 + c.utf8Size ≤ (encode (c :: rest)).length := by
    rw [Text.encode_cons, List.length_append, length]
    omega
  have behind : tokensBehind (encode (c :: rest)) c.utf8Size =
      (tokensBehind (encode rest) 0).map (Token.shift c.utf8Size) := by
    rw [Text.encode_cons, ← length]
    exact tokensBehind_append _ _
  -- Of the bytes of the character only that of an ASCII character can begin a step.
  have head : (List.range' 0 c.utf8Size).filterMap (tokenAt? (encode (c :: rest))) =
      (stepAt? 0 c rest).toList := by
    by_cases ascii : c.utf8Size = 1
    · rw [ascii, List.range'_one, List.filterMap_cons, List.filterMap_nil, tokenAt?_of_ascii ascii]
      cases stepAt? 0 c rest <;> rfl
    · have noStep : stepAt? 0 c rest = none := by
        simp [stepAt?, Direction.ofLetter?_of_utf8Size_ne ascii]
      rw [noStep, Option.toList_none, List.filterMap_eq_nil_iff]
      intro start member
      exact tokenAt?_of_wide ascii (by simpa using member)
  rw [tokensBehind_add inside, head, Nat.zero_add, behind]

/-- Reading over characters finds the steps that begin at bytes. -/
theorem tokensFrom_eq (offset : Nat) (text : List Char) :
    tokensFrom offset text = (tokensBehind (encode text) 0).map (Token.shift offset) := by
  induction text generalizing offset with
  | nil => rfl
  | cons c rest ih =>
    have further : tokensFrom (offset + c.utf8Size) rest =
        ((tokensBehind (encode rest) 0).map (Token.shift c.utf8Size)).map (Token.shift offset) := by
      rw [ih, List.map_map]
      congr 1
      funext token
      simp only [Function.comp_apply, Token.shift, Span.shift, Nat.add_assoc]
    rw [tokensBehind_encode_cons, List.map_append, ← further, tokensFrom,
      stepAt?_eq_map_shift offset]
    cases stepAt? 0 c rest <;> rfl

theorem tokens_eq_tokensBehind (text : String) : tokens text = tokensBehind (Text.bytes text) 0 := by
  have unmoved : Token.shift 0 = id := by
    funext token
    simp only [Token.shift, Span.shift, Nat.zero_add, id]
  rw [tokens, tokensFrom_eq, unmoved, List.map_id, Text.bytes_eq]

/-! ## Steps between characters -/

/-- A token is a letter of a text that starts at an offset, and digits behind the letter. -/
def Token.IsCutFrom (token : Token) (offset : Nat) (text : List Char) : Prop :=
  ∃ front letter digits back, text = front ++ letter :: (digits ++ back) ∧
    Direction.ofLetter? letter = some token.direction ∧
    Magnitude.ofDigits? digits = some token.magnitude ∧
    token.span = ⟨offset + Text.byteLength front,
      offset + Text.byteLength front + 1 + Text.byteLength digits⟩

theorem Token.IsCutFrom.cons {token : Token} {offset : Nat}
    (cut : token.IsCutFrom (offset + c.utf8Size) rest) : token.IsCutFrom offset (c :: rest) := by
  obtain ⟨front, letter, digits, back, rfl, direction, magnitude, span⟩ := cut
  refine ⟨c :: front, letter, digits, back, rfl, direction, magnitude, ?_⟩
  rw [span, Text.byteLength_cons, Nat.add_assoc offset]

theorem isCutFrom_of_stepAt? {token : Token} {offset : Nat}
    (here : stepAt? offset c rest = some token) : token.IsCutFrom offset (c :: rest) := by
  simp only [stepAt?, bind, Option.bind_eq_some_iff, pure, Option.some.injEq] at here
  obtain ⟨direction, letter, magnitude, digits, rfl⟩ := here
  refine ⟨[], c, rest.takeWhile Char.isDigit, rest.dropWhile Char.isDigit, ?_, letter, digits, ?_⟩
  · rw [List.nil_append, List.takeWhile_append_dropWhile]
  · rw [Text.byteLength_of_all_isDigit List.all_takeWhile]
    rfl

/-- All steps of a text are cut from it. -/
theorem isCutFrom_of_mem {offset : Nat} {text : List Char} {token : Token}
    (member : token ∈ tokensFrom offset text) : token.IsCutFrom offset text := by
  induction text generalizing offset with
  | nil => simp [tokensFrom] at member
  | cons c rest ih =>
    rw [tokensFrom] at member
    split at member
    · rename_i found here
      rcases List.mem_cons.1 member with rfl | later
      · exact isCutFrom_of_stepAt? here
      · exact (ih later).cons
    · exact (ih member).cons

/-- The bounds of a step of a text stand between its characters. -/
theorem isValid_of_mem {text : String} {token : Token} (member : token ∈ tokens text) :
    (⟨token.span.start⟩ : String.Pos.Raw).IsValid text ∧
      (⟨token.span.stop⟩ : String.Pos.Raw).IsValid text := by
  obtain ⟨front, letter, digits, back, split, direction, magnitude, span⟩ := isCutFrom_of_mem member
  have behind : text.toList = (front ++ letter :: digits) ++ back := by
    rw [split, List.append_assoc, List.cons_append]
  have stop : Text.byteLength (front ++ letter :: digits) =
      0 + Text.byteLength front + 1 + Text.byteLength digits := by
    rw [Text.byteLength_append, Text.byteLength_cons, Direction.utf8Size_of_ofLetter? direction]
    omega
  rw [span, ← stop, Nat.zero_add]
  exact ⟨Text.isValid_of_append split, Text.isValid_of_append behind⟩

namespace ByteStream

/-- A step of a text is cut out between characters, its digits are taken for a number, and its span is
in order. -/
theorem stepBetween_of_mem {text : String} {token : Token} (member : token ∈ tokens text) :
    stepBetween text token.direction token.span.start token.span.stop = .step token := by
  obtain ⟨front, letter, digits, back, split, direction, magnitude, span⟩ := isCutFrom_of_mem member
  have around : text.toList = (front ++ [letter]) ++ (digits ++ back) := by
    rw [split, List.append_assoc, List.singleton_append]
  have behind : Text.byteLength (front ++ [letter]) = token.span.start + 1 := by
    rw [Text.byteLength_append, Text.byteLength_cons, Direction.utf8Size_of_ofLetter? direction, span,
      Nat.zero_add, Text.byteLength_nil]
  have cut : Text.slice? text (token.span.start + 1) token.span.stop =
      some (String.ofList digits) := by
    have last : token.span.stop = token.span.start + 1 + Text.byteLength digits := by
      rw [span]
    rw [last, ← behind]
    exact Text.slice?_of_append around
  have ordered : token.span.start ≤ token.span.stop := by
    rw [span]
    dsimp only
    omega
  simp only [stepBetween, cut, String.toList_ofList, magnitude, Span.between, if_pos ordered]

end ByteStream

/-! ## What a stream answers -/

theorem mem_tokensBehind {bytes : List UInt8} {start : Nat} {token : Token} :
    token ∈ tokensBehind bytes start ↔ ∃ place, start ≤ place ∧ tokenAt? bytes place = some token := by
  simp only [tokensBehind, List.mem_filterMap, List.mem_range'_1]
  constructor
  · rintro ⟨place, ⟨behind, -⟩, here⟩
    exact ⟨place, behind, here⟩
  · rintro ⟨place, behind, here⟩
    have inside : place + 1 < bytes.length := by
      apply Decidable.byContradiction
      intro beyond
      rw [tokenAt?_of_not_lt beyond] at here
      contradiction
    exact ⟨place, ⟨behind, by omega⟩, here⟩

namespace ByteStream

variable {stream : ByteStream}

/-- Where no step is left the stream has ended, and it stays where it is. -/
theorem next_of_nil (none_left : tokensBehind (Text.bytes stream.source) stream.offset = []) :
    stream.next = (.ended, stream) := by
  cases sought : seek (Text.bytes stream.source) stream.offset with
  | none => simp only [next, sought]
  | some found =>
    obtain ⟨place, direction⟩ := found
    obtain ⟨-, token, -, behind⟩ := tokensBehind_of_seek_eq_some sought
    rw [behind] at none_left
    contradiction

/-- Where steps are left the stream answers with the first of them and goes on behind its digits, where
the others are left. -/
theorem next_of_cons {token : Token} {more : List Token}
    (left : tokensBehind (Text.bytes stream.source) stream.offset = token :: more) :
    stream.next = (.step token, { stream with offset := token.span.stop }) ∧
      tokensBehind (Text.bytes stream.source) token.span.stop = more := by
  cases sought : seek (Text.bytes stream.source) stream.offset with
  | none =>
    rw [tokensBehind_of_seek_eq_none sought] at left
    contradiction
  | some found =>
    obtain ⟨place, direction⟩ := found
    obtain ⟨begins, first, here, behind⟩ := tokensBehind_of_seek_eq_some sought
    rw [behind] at left
    obtain ⟨rfl, rfl⟩ := List.cons.inj left
    have member : first ∈ tokens stream.source := by
      rw [tokens_eq_tokensBehind]
      exact mem_tokensBehind.2 ⟨place, Nat.zero_le place, here⟩
    simp only [tokenAt?, begins, Option.map_some, Option.some.injEq] at here
    -- The stream goes on behind the digits, at none of which another step begins.
    have stop : digitsEnd (Text.bytes stream.source) (place + 1) = first.span.stop := by
      rw [digitsEnd_eq, ← here]
    have cut : stepBetween stream.source direction place first.span.stop = .step first := by
      have same := stepBetween_of_mem member
      rwa [← here] at same ⊢
    exact ⟨by simp only [next, sought, stop, cut], by rw [← stop, tokensBehind_digitsEnd]⟩

/-- Each question is answered with the step of its number, and with the end where there is none. -/
theorem answer_eq (stream : ByteStream) (count : Nat) :
    stream.answer count =
      (tokensBehind (Text.bytes stream.source) stream.offset)[count]?.elim .ended .step := by
  -- Each question moves the stream, so the induction is over the questions for all streams.
  induction count generalizing stream with
  | zero =>
    change stream.next.1 = _
    cases left : tokensBehind (Text.bytes stream.source) stream.offset with
    | nil => rw [next_of_nil left]; rfl
    | cons token more => rw [(next_of_cons left).1]; rfl
  | succ count ih =>
    change stream.next.2.answer count = _
    rw [ih]
    cases left : tokensBehind (Text.bytes stream.source) stream.offset with
    | nil => rw [next_of_nil left, left]; rfl
    | cons token more =>
      obtain ⟨goes_on, behind⟩ := next_of_cons left
      rw [goes_on, behind, List.getElem?_cons_succ]

end ByteStream

/-! ## The bytes of a step -/

/-- Whether a byte is one of the letters of directions, in either case. -/
def isLetterByte (byte : UInt8) : Bool :=
  Char.ofUInt8 byte ∈ ['F', 'B', 'L', 'R', 'f', 'b', 'l', 'r']

/-- Whether a byte is such a letter and the byte behind it a digit. -/
def stepBegins (bytes : List UInt8) (start : Nat) : Bool :=
  bytes[start]?.any isLetterByte && bytes[start + 1]?.any Text.isDigitByte

/-- A token tells what stands at its bytes: a letter of its direction and the whole run of digits behind
it, of which its magnitude is the number. -/
structure Token.Reads (bytes : List UInt8) (token : Token) : Prop where
  letter : ∃ byte ∈ bytes[token.span.start]?, (Char.ofUInt8 byte).toUpper = token.direction.letter
  nonempty : token.span.start + 1 < token.span.stop
  digits : ∀ place, token.span.start < place → place < token.span.stop →
    ∃ byte ∈ bytes[place]?, Text.isDigitByte byte = true
  maximal : ∀ byte ∈ bytes[token.span.stop]?, Text.isDigitByte byte = false
  value : token.magnitude.value = Text.decimal
    ((bytes.drop (token.span.start + 1)).take (token.span.stop - (token.span.start + 1)))

theorem isSome_ofLetter? (c : Char) : (Direction.ofLetter? c).isSome =
    decide (c ∈ ['F', 'B', 'L', 'R', 'f', 'b', 'l', 'r']) := by
  unfold Direction.ofLetter?
  split <;> simp_all

theorem toUpper_of_ofLetter? {c : Char} {direction : Direction}
    (found : Direction.ofLetter? c = some direction) : c.toUpper = direction.letter := by
  unfold Direction.ofLetter? at found
  split at found
  case h_9 => contradiction
  all_goals
    obtain rfl := Option.some.inj found
    rfl

section Bytes

variable {bytes : List UInt8} {start : Nat} {token : Token}

/-- A token is found at a byte exactly where a letter has a digit behind it. -/
theorem isSome_tokenAt? (bytes : List UInt8) (start : Nat) :
    (tokenAt? bytes start).isSome = stepBegins bytes start := by
  rw [tokenAt?, Option.isSome_map, directionAt?, stepBegins]
  cases bytes[start]? with
  | none => rfl
  | some letter =>
    cases bytes[start + 1]? with
    | none => simp
    | some next =>
      simp only [Option.any_some, isLetterByte, ← isSome_ofLetter?]
      cases Text.isDigitByte next <;> simp

theorem start_of_tokenAt? (found : tokenAt? bytes start = some token) : token.span.start = start := by
  obtain ⟨direction, -, rfl⟩ := Option.map_eq_some_iff.1 found
  rfl

theorem reads_of_tokenAt? (found : tokenAt? bytes start = some token) : token.Reads bytes := by
  obtain ⟨direction, begins, rfl⟩ := Option.map_eq_some_iff.1 found
  have run : bytes.drop (start + 1) = digitsAt bytes (start + 1) ++
      (bytes.drop (start + 1)).dropWhile Text.isDigitByte := List.takeWhile_append_dropWhile.symm
  have from_run (further : Nat) : bytes[start + 1 + further]? = (digitsAt bytes (start + 1) ++
      (bytes.drop (start + 1)).dropWhile Text.isDigitByte)[further]? := by
    rw [← run, List.getElem?_drop]
  rw [directionAt?_eq] at begins
  split at begins
  · contradiction
  rename_i some_digit
  obtain ⟨byte, present, letter⟩ := Option.bind_eq_some_iff.1 begins
  constructor
  case letter => exact ⟨byte, present, toUpper_of_ofLetter? letter⟩
  case nonempty => exact Nat.lt_add_of_pos_right (List.length_pos_iff.2 some_digit)
  case digits =>
    intro place behind before
    obtain ⟨further, rfl⟩ := Nat.exists_eq_add_of_le behind
    have bound : further < (digitsAt bytes (start + 1)).length := Nat.add_lt_add_iff_left.1 before
    refine ⟨(digitsAt bytes (start + 1))[further], ?_, ?_⟩
    · rw [Option.mem_def, from_run, List.getElem?_append_left bound, List.getElem?_eq_getElem bound]
    · exact List.all_eq_true.1 List.all_takeWhile _ (List.getElem_mem bound)
  case maximal =>
    intro byte present
    rw [from_run, List.getElem?_append_right (Nat.le_refl _), Nat.sub_self, ← List.head?_eq_getElem?]
      at present
    have stopped := List.head?_dropWhile_not Text.isDigitByte (bytes.drop (start + 1))
    rwa [Option.mem_def.1 present] at stopped
  case value =>
    dsimp only
    rw [Nat.add_sub_cancel_left, run, List.take_left]

/-- Of two tokens the one that begins first also ends first: no letter stands among its digits. -/
theorem stop_le_start {other : Token} {later : Nat} (found : tokenAt? bytes start = some token)
    (also : tokenAt? bytes later = some other) (behind : start < later) :
    token.span.stop ≤ other.span.start := by
  apply Decidable.byContradiction
  intro inside
  rw [start_of_tokenAt? also, Nat.not_le] at inside
  obtain ⟨byte, present, digit⟩ := (reads_of_tokenAt? found).digits later
    (by rwa [start_of_tokenAt? found]) inside
  obtain ⟨bound, rfl⟩ := List.getElem?_eq_some_iff.1 present
  simp [tokenAt?, directionAt?_of_isDigitByte bound digit] at also

theorem map_start_tokensBehind (bytes : List UInt8) :
    (tokensBehind bytes 0).map (·.span.start) =
      (List.range bytes.length).filter (stepBegins bytes) := by
  rw [tokensBehind, List.map_filterMap, Nat.sub_zero, ← List.range_eq_range',
    ← List.filterMap_eq_filter]
  congr 1
  funext start
  rw [Option.guard, ← isSome_tokenAt?]
  cases found : tokenAt? bytes start with
  | none => rfl
  | some token => exact congrArg some (start_of_tokenAt? found)

theorem pairwise_tokensBehind (bytes : List UInt8) (start : Nat) :
    (tokensBehind bytes start).Pairwise fun token other => token.span.stop ≤ other.span.start := by
  refine List.Pairwise.filterMap _ ?_ (List.pairwise_lt_range' )
  intro place later behind token found other also
  exact stop_le_start found also behind

end Bytes

/-- The steps of any text begin at the bytes that are a letter of a direction, in either case, with a
digit in the byte behind it, and nowhere else. Each reads its letter and all digits that follow, stands
between characters and ends before the next one begins. Read over characters or asked for one by one over
bytes, the steps are the same; no answer but a step is given before the end, and none but the end
after it. -/
theorem tokens_begin_at_letters (text : String) :
    (tokens text).map (·.span.start) =
        (List.range (Text.bytes text).length).filter (stepBegins (Text.bytes text)) ∧
      (∀ token ∈ tokens text, token.Reads (Text.bytes text) ∧
        (⟨token.span.start⟩ : String.Pos.Raw).IsValid text ∧
        (⟨token.span.stop⟩ : String.Pos.Raw).IsValid text) ∧
      (tokens text).Pairwise (fun token other => token.span.stop ≤ other.span.start) ∧
      (TokenStream.ofText text).toList = tokens text ∧
      (∀ count, (ByteStream.ofText text).answer count = (tokens text)[count]?.elim .ended .step) ∧
      ∀ count later, (ByteStream.ofText text).answer count = .ended → count ≤ later →
        (ByteStream.ofText text).answer later = .ended := by
  have answers (count : Nat) :
      (ByteStream.ofText text).answer count = (tokens text)[count]?.elim .ended .step := by
    rw [tokens_eq_tokensBehind]
    exact ByteStream.answer_eq (ByteStream.ofText text) count
  refine ⟨?_, ?_, ?_, TokenStream.toList_ofText text, answers, ?_⟩
  · rw [tokens_eq_tokensBehind]
    exact map_start_tokensBehind _
  · intro token member
    refine ⟨?_, isValid_of_mem member⟩
    rw [tokens_eq_tokensBehind] at member
    obtain ⟨place, -, here⟩ := mem_tokensBehind.1 member
    exact reads_of_tokenAt? here
  · rw [tokens_eq_tokensBehind]
    exact pairwise_tokensBehind _ 0
  · intro count later ended behind
    rw [answers] at ended ⊢
    cases left : (tokens text)[count]? with
    | some token => simp [left] at ended
    | none =>
      rw [List.getElem?_eq_none_iff] at left
      rw [List.getElem?_eq_none_iff.2 (Nat.le_trans left behind)]
      rfl

-- Offsets count bytes; the lower-case letter is read, the last one lacks its digit.
example : tokens "€F007é l5R" =
    [⟨.forward, ⟨7⟩, ⟨3, 7⟩⟩, ⟨.turnLeft, ⟨5⟩, ⟨10, 12⟩⟩] := by decide

end Forklift
