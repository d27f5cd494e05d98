import Forklift.Proofs.Json.Tokens
import Forklift.Json.Tree

/-! # Written values

A written value is read back as its tree, in whatever layout it was written, as long as its numbers are
natural numbers. The reader takes a value token by token: wherever one may come, it ends up behind that
value with the same brackets open, and so an array or an object can be read part by part.
-/

namespace Forklift.Json

open Json.Token (EndsBefore)

/-! ## Trees of values -/

mutual

/-- A value as the tree of its text. -/
def tree : Json → Tree
  | null => .null
  | bool b => .bool b
  | number n => .number n
  | string s => .string (some s)
  | array items => .array (treesOfItems items)
  | object members => .object (treesOfMembers members)
termination_by structural value => value

/-- `tree` for each item of an array. -/
def treesOfItems : List Json → List Tree
  | [] => []
  | item :: rest => tree item :: treesOfItems rest
termination_by structural items => items

/-- `tree` for each member of an object. -/
def treesOfMembers : List (String × Json) → List (Option String × Tree)
  | [] => []
  | (name, value) :: rest => (some name, tree value) :: treesOfMembers rest
termination_by structural members => members

end

/-- A value is plain when all of its numbers are natural numbers. -/
inductive Plain : Json → Prop where
  | null : Plain null
  | bool (b : Bool) : Plain (bool b)
  | nat (n : Nat) : Plain (nat n)
  | string (s : String) : Plain (string s)
  | array {items : List Json} (plain : ∀ item ∈ items, Plain item) : Plain (array items)
  | object {members : List (String × Json)} (plain : ∀ member ∈ members, Plain member.2) :
      Plain (object members)

attribute [simp] Plain.null Plain.bool Plain.nat Plain.string

@[simp] theorem plain_array_map_iff {α : Type} {toJson : α → Json} {parts : List α} :
    (array (parts.map toJson)).Plain ↔ ∀ part ∈ parts, (toJson part).Plain := by
  constructor
  · intro plain
    cases plain with
    | array plain => exact List.forall_mem_map.1 plain
  · intro plain
    exact .array (List.forall_mem_map.2 plain)

@[simp] theorem plain_object_nil : (object []).Plain :=
  .object nofun

@[simp] theorem plain_object_cons_iff {name : String} {value : Json}
    {rest : List (String × Json)} :
    (object ((name, value) :: rest)).Plain ↔ value.Plain ∧ (object rest).Plain := by
  constructor
  · intro plain
    cases plain with
    | object plain =>
      obtain ⟨first, others⟩ := List.forall_mem_cons.1 plain
      exact ⟨first, .object others⟩
  · rintro ⟨first, others⟩
    cases others with
    | object others => exact .object (List.forall_mem_cons.2 ⟨first, others⟩)

/-- Whether nothing but blanks is put between the tokens. -/
structure Layout.IsBlank (layout : Layout) : Prop where
  line : ∀ depth, (layout.line depth).all Token.isBlank = true
  gap : layout.gap.all Token.isBlank = true

theorem isBlank_compact : Layout.compact.IsBlank :=
  ⟨fun _ => rfl, rfl⟩

theorem isBlank_indented : Layout.indented.IsBlank := by
  refine ⟨?_, rfl⟩
  intro depth
  simp [Layout.indented, Token.isBlank]

/-! ## One token at a time -/

namespace Tree
variable {state : ReaderState} {c : Char} {text after : List Char} {token : Token}

/-- One step of reading: behind the blanks, a token is taken. -/
theorem readFrom?_eq (state : ReaderState) (text : List Char) :
    readFrom? state text =
      match text.dropWhile Token.isBlank with
      | [] => state.tree?
      | c :: rest => (Token.read? c rest).bind fun (token, after) =>
          (state.step token).bind (readFrom? · after) := by
  rw [readFrom?.eq_def]
  split
  · rename_i nothing
    rw [nothing]
  · rename_i first
    rw [first]
    dsimp only
    split
    · rename_i read
      rw [read]
      rfl
    · rename_i read
      rw [read]
      dsimp only [Option.bind_some]
      split
      · rename_i taken
        rw [taken]
        rfl
      · rename_i taken
        rw [taken]
        rfl

theorem readFrom?_blanks {blanks : List Char} (blank : blanks.all Token.isBlank = true)
    (state : ReaderState) (text : List Char) :
    readFrom? state (blanks ++ text) = readFrom? state text := by
  have same : (blanks ++ text).dropWhile Token.isBlank = text.dropWhile Token.isBlank :=
    List.dropWhile_append_of_pos (List.all_eq_true.mp blank)
  rw [readFrom?_eq, same, ← readFrom?_eq]

theorem readFrom?_nil (state : ReaderState) : readFrom? state [] = state.tree? :=
  readFrom?_eq state []

theorem readFrom?_token (visible : Token.isBlank c = false)
    (read : Token.read? c text = some (token, after)) :
    readFrom? state (c :: text) = (state.step token).bind (readFrom? · after) := by
  rw [readFrom?_eq, List.dropWhile_cons_of_neg (by simp [visible])]
  simp only [read, Option.bind_some]

theorem readFrom?_string (state : ReaderState) (s : String) (rest : List Char) :
    readFrom? state (spellString s ++ rest) =
      (state.step (.string (some s))).bind (readFrom? · rest) := by
  have spelled : spellString s ++ rest = '"' :: (s.toList.flatMap escape ++ '"' :: rest) := by
    simp [spellString]
  rw [spelled]
  exact readFrom?_token rfl (Token.read?_quoted s rest)

theorem readFrom?_nat (state : ReaderState) (n : Nat) {rest : List Char} (ends : EndsBefore rest) :
    readFrom? state (Nat.toDigits 10 n ++ rest) =
      (state.step (.number (.ofNat n))).bind (readFrom? · rest) := by
  have read := Numeral.read?_toDigits n ends
  obtain ⟨c, more, digits, digit⟩ := Numeral.exists_toDigits_eq_cons n
  rw [digits, List.cons_append] at read ⊢
  have visible : Token.isBlank c = false := by
    simp only [Token.isBlank, Bool.or_eq_false_iff, decide_eq_false_iff_not]
    refine ⟨⟨⟨?_, ?_⟩, ?_⟩, ?_⟩ <;> rintro rfl <;> cases digit
  have token : Token.read? c (more ++ rest) = some (.number (.ofNat n), rest) := by
    rw [Token.read?_of_isDigit digit, read]
    rfl
  exact readFrom?_token visible token

end Tree

/-! ## Whole values -/

/-- Whether a value must come, or may come where an array has just been opened; the brackets of `stack`
are open then. -/
def ReaderState.Awaits (state : ReaderState) (stack : List Frame) : Prop :=
  ∀ token, token ≠ .closeArray → state.step token = startValue stack token

theorem ReaderState.awaits_value (stack : List Frame) : (value stack).Awaits stack :=
  fun _ _ => rfl

theorem ReaderState.awaits_arrayStart (stack : List Frame) :
    (arrayStart stack).Awaits (.array [] :: stack) := by
  intro token other
  cases token <;> first | rfl | exact absurd rfl other

/-- A comma or a closing bracket ends the token in front of it, and so do blanks in front of it. -/
theorem endsBefore_mark {c : Char} (mark : c = ',' ∨ c = ']' ∨ c = '\x7d') (rest : List Char) :
    EndsBefore (c :: rest) := by
  rintro first ⟨⟩
  exact .inr mark

theorem endsBefore_blanks {blanks rest : List Char} (blank : blanks.all Token.isBlank = true)
    (ends : EndsBefore rest) : EndsBefore (blanks ++ rest) := by
  cases blanks with
  | nil => exact ends
  | cons head more =>
    rw [List.all_cons, Bool.and_eq_true] at blank
    rintro first ⟨⟩
    exact .inl blank.1

/-- Whether a value that is written in a layout is read wherever a value may come. -/
def IsReadBack (layout : Layout) (value : Json) : Prop :=
  ∀ (depth : Nat) {state : ReaderState} {stack : List Frame} {rest : List Char},
    state.Awaits stack → EndsBefore rest →
      Tree.readFrom? state (spell layout depth value ++ rest) =
        Tree.readFrom? (.done value.tree stack) rest

/-- A value that is written as a word is read back where the word is known by its first character. -/
theorem isReadBack_word {layout : Layout} {value : Json} (token : Token) (c : Char)
    (word : List Char) (written : ∀ depth, spell layout depth value = c :: word)
    (known : ∀ rest, Token.read? c rest = Token.word? token word rest)
    (visible : Token.isBlank c = false)
    (starts : ∀ stack, ReaderState.startValue stack token = some (.done value.tree stack)) :
    IsReadBack layout value := by
  intro depth state stack rest awaits ends
  have read : Token.read? c (word ++ rest) = some (token, rest) := by
    rw [known, Token.word?_append]
  have other : token ≠ .closeArray := by
    rintro rfl
    cases starts stack
  rw [written, List.cons_append, Tree.readFrom?_token visible read, awaits token other, starts,
    Option.bind_some]

section Parts

variable {layout : Layout} (blank : layout.IsBlank)

include blank

/-- A token ends in front of what goes on with a comma, if at all, and is then closed. -/
theorem endsBefore_closed {parts : List Char} (separated : ∀ c ∈ parts.head?, c = ',') (outer : Nat)
    {closing : Char} (mark : closing = ']' ∨ closing = '\x7d') (rest : List Char) :
    EndsBefore (parts ++ (layout.line outer ++ closing :: rest)) := by
  cases parts with
  | nil =>
    rw [List.nil_append]
    exact endsBefore_blanks (blank.line outer) (endsBefore_mark (.inr mark) rest)
  | cons c more =>
    obtain rfl := separated c rfl
    exact endsBefore_mark (.inl rfl) _

theorem endsBefore_spellItems (depth outer : Nat) (items : List Json) (rest : List Char) :
    EndsBefore (spellItems layout depth items ++ (layout.line outer ++ ']' :: rest)) := by
  have separated : ∀ c ∈ (spellItems layout depth items).head?, c = ',' := by
    cases items <;> simp [spellItems]
  exact endsBefore_closed blank separated outer (.inl rfl) rest

theorem endsBefore_spellMembers (depth outer : Nat) (members : List (String × Json))
    (rest : List Char) :
    EndsBefore (spellMembers layout depth members ++ (layout.line outer ++ '\x7d' :: rest)) := by
  have separated : ∀ c ∈ (spellMembers layout depth members).head?, c = ',' := by
    cases members <;> simp [spellMembers]
  exact endsBefore_closed blank separated outer (.inr rfl) rest

/-- The items behind the first one are read up to the bracket that closes their array. -/
theorem readFrom?_spellItems {items : List Json} (read : ∀ item ∈ items, IsReadBack layout item)
    (depth outer : Nat) (first : Tree) (done : List Tree) (stack : List Frame) (rest : List Char) :
    Tree.readFrom? (.done first (.array done :: stack))
        (spellItems layout depth items ++ (layout.line outer ++ ']' :: rest)) =
      Tree.readFrom? (.done (.array (done.reverse ++ first :: treesOfItems items)) stack) rest := by
  induction items generalizing first done with
  | nil =>
    rw [spellItems, List.nil_append, Tree.readFrom?_blanks (blank.line outer),
      Tree.readFrom?_token rfl rfl]
    simp [ReaderState.step, treesOfItems]
  | cons item more ih =>
    obtain ⟨here, later⟩ := List.forall_mem_cons.mp read
    have ends := endsBefore_spellItems blank depth outer more rest
    rw [spellItems, List.cons_append, Tree.readFrom?_token rfl rfl]
    simp only [ReaderState.step, Option.bind_some, List.append_assoc]
    rw [Tree.readFrom?_blanks (blank.line depth), here depth (ReaderState.awaits_value _) ends,
      ih later]
    simp [treesOfItems]

/-- A member is read up to the end of its value. -/
theorem readFrom?_member {value : Json} (read : IsReadBack layout value) (depth : Nat)
    {state : ReaderState} {name : String} {done : List (Option String × Tree)} {stack : List Frame}
    (named : state.step (.string (some name)) = some (.colon done (some name) stack))
    {rest : List Char} (ends : EndsBefore rest) :
    Tree.readFrom? state
        (spellString name ++ ':' :: (layout.gap ++ (spell layout depth value ++ rest))) =
      Tree.readFrom? (.done value.tree (.object done (some name) :: stack)) rest := by
  rw [Tree.readFrom?_string, named, Option.bind_some, Tree.readFrom?_token rfl rfl]
  simp only [ReaderState.step, Option.bind_some]
  rw [Tree.readFrom?_blanks blank.gap, read depth (ReaderState.awaits_value _) ends]

/-- The members behind the first one are read up to the bracket that closes their object. -/
theorem readFrom?_spellMembers {members : List (String × Json)}
    (read : ∀ member ∈ members, IsReadBack layout member.2) (depth outer : Nat) (first : Tree)
    (name : Option String) (done : List (Option String × Tree)) (stack : List Frame)
    (rest : List Char) :
    Tree.readFrom? (.done first (.object done name :: stack))
        (spellMembers layout depth members ++ (layout.line outer ++ '\x7d' :: rest)) =
      Tree.readFrom?
        (.done (.object (done.reverse ++ (name, first) :: treesOfMembers members)) stack) rest := by
  induction members generalizing first name done with
  | nil =>
    rw [spellMembers, List.nil_append, Tree.readFrom?_blanks (blank.line outer),
      Tree.readFrom?_token rfl rfl]
    simp [ReaderState.step, treesOfMembers]
  | cons member more ih =>
    obtain ⟨key, value⟩ := member
    obtain ⟨here, later⟩ := List.forall_mem_cons.mp read
    have ends := endsBefore_spellMembers blank depth outer more rest
    rw [spellMembers, List.cons_append, Tree.readFrom?_token rfl rfl]
    simp only [ReaderState.step, Option.bind_some, List.append_assoc, List.cons_append]
    rw [Tree.readFrom?_blanks (blank.line depth), readFrom?_member blank here depth rfl ends,
      ih later]
    simp [treesOfMembers]

/-- An array is read back if its items are. -/
theorem isReadBack_array {items : List Json} (read : ∀ item ∈ items, IsReadBack layout item) :
    IsReadBack layout (.array items) := by
  intro depth state stack rest awaits ends
  cases items with
  | nil =>
    rw [spell, List.cons_append, Tree.readFrom?_token rfl rfl, awaits .openArray nofun]
    simp only [ReaderState.startValue, Option.bind_some, List.cons_append, List.nil_append]
    rw [Tree.readFrom?_token rfl rfl]
    rfl
  | cons item more =>
    obtain ⟨here, later⟩ := List.forall_mem_cons.mp read
    have further := endsBefore_spellItems blank (depth + 1) depth more rest
    rw [spell, List.cons_append, Tree.readFrom?_token rfl rfl, awaits .openArray nofun]
    simp only [ReaderState.startValue, Option.bind_some, List.append_assoc, List.singleton_append]
    rw [Tree.readFrom?_blanks (blank.line _),
      here (depth + 1) (ReaderState.awaits_arrayStart stack) further,
      readFrom?_spellItems blank later]
    simp [tree, treesOfItems]

/-- An object is read back if the values of its members are. -/
theorem isReadBack_object {members : List (String × Json)}
    (read : ∀ member ∈ members, IsReadBack layout member.2) :
    IsReadBack layout (.object members) := by
  intro depth state stack rest awaits ends
  cases members with
  | nil =>
    rw [spell, List.cons_append, Tree.readFrom?_token rfl rfl, awaits .openObject nofun]
    simp only [ReaderState.startValue, Option.bind_some, List.cons_append, List.nil_append]
    rw [Tree.readFrom?_token rfl rfl]
    rfl
  | cons member more =>
    obtain ⟨name, value⟩ := member
    obtain ⟨here, later⟩ := List.forall_mem_cons.mp read
    have further := endsBefore_spellMembers blank (depth + 1) depth more rest
    rw [spell, List.cons_append, Tree.readFrom?_token rfl rfl, awaits .openObject nofun]
    simp only [ReaderState.startValue, Option.bind_some, List.append_assoc, List.cons_append,
      List.nil_append]
    rw [Tree.readFrom?_blanks (blank.line _), readFrom?_member blank here (depth + 1) rfl further,
      readFrom?_spellMembers blank later]
    simp [tree, treesOfMembers]

/-- A plain value is read back as its tree, wherever it may come. -/
theorem isReadBack_of_plain {value : Json} (plain : value.Plain) : IsReadBack layout value := by
  induction plain with
  | null =>
    refine isReadBack_word .null 'n' ['u', 'l', 'l'] ?_ ?_ rfl ?_ <;> intro _ <;> rfl
  | bool b =>
    cases b with
    | true =>
      refine isReadBack_word (.bool true) 't' ['r', 'u', 'e'] ?_ ?_ rfl ?_ <;> intro _ <;> rfl
    | false =>
      refine isReadBack_word (.bool false) 'f' ['a', 'l', 's', 'e'] ?_ ?_ rfl ?_ <;> intro _ <;> rfl
  | nat n =>
    intro depth state stack rest awaits ends
    rw [nat, spell, Numeral.spell_ofNat, Tree.readFrom?_nat state n ends,
      awaits (.number (.ofNat n)) nofun]
    rfl
  | string s =>
    intro depth state stack rest awaits ends
    rw [spell, Tree.readFrom?_string, awaits (.string (some s)) nofun]
    rfl
  | array _ read => exact isReadBack_array blank read
  | object _ read => exact isReadBack_object blank read

end Parts

/-- A written value and nothing but blanks behind it is the text of the tree of the value. -/
theorem Tree.ofText?_spell {layout : Layout} (blank : layout.IsBlank) {value : Json}
    (plain : value.Plain) (depth : Nat) {blanks : List Char}
    (trailing : blanks.all Token.isBlank = true) :
    ofText? (String.ofList (spell layout depth value ++ blanks)) = some value.tree := by
  have ends : EndsBefore blanks := by
    rw [← List.append_nil blanks]
    exact endsBefore_blanks trailing nofun
  have read := isReadBack_of_plain blank plain depth (ReaderState.awaits_value []) ends
  rw [ofText?, String.toList_ofList, read, ← List.append_nil blanks, readFrom?_blanks trailing,
    readFrom?_nil]
  rfl

/-- A value on one line is the text of its tree. -/
theorem Tree.ofText?_compact {value : Json} (plain : value.Plain) :
    ofText? value.compact = some value.tree := by
  have noBlanks : ([] : List Char).all Token.isBlank = true := rfl
  have read := ofText?_spell isBlank_compact plain 0 noBlanks
  rwa [List.append_nil] at read

end Forklift.Json
