import Forklift.Json.Token

/-! # JSON trees

The structure of a JSON text before it is decided what its strings and numbers mean. Reading is one
pass over the tokens with a stack of the brackets that are still open, so nesting has no limit here.
-/

namespace Forklift.Json

/-- A JSON text taken apart. A string without a text is kept, and names count as strings. -/
inductive Tree where
  | null
  | bool (b : Bool)
  | number (n : Numeral)
  | string (text : Option String)
  | array (items : List Tree)
  | object (members : List (Option String × Tree))

/-- A bracket that is still open, with what has been read inside it, last first. -/
inductive Frame where
  | array (items : List Tree)
  /-- The value of the member `name` is being read. -/
  | object (members : List (Option String × Tree)) (name : Option String)

/-- What has been read and what may come next. -/
inductive ReaderState where
  /-- A value must come. -/
  | value (stack : List Frame)
  /-- An array has just been opened. -/
  | arrayStart (stack : List Frame)
  /-- An object has just been opened. -/
  | objectStart (stack : List Frame)
  /-- The name of a further member must come. -/
  | name (members : List (Option String × Tree)) (stack : List Frame)
  /-- The colon after a name must come. -/
  | colon (members : List (Option String × Tree)) (name : Option String) (stack : List Frame)
  /-- A value is complete. -/
  | done (tree : Tree) (stack : List Frame)

namespace ReaderState

/-- Takes a token where a value must come. -/
def startValue (stack : List Frame) : Token → Option ReaderState
  | .openObject => some (objectStart stack)
  | .openArray => some (arrayStart stack)
  | .null => some (done .null stack)
  | .bool b => some (done (.bool b) stack)
  | .number n => some (done (.number n) stack)
  | .string text => some (done (.string text) stack)
  | _ => none

/-- Takes one token. -/
def step : ReaderState → Token → Option ReaderState
  | value stack, token => startValue stack token
  | arrayStart stack, .closeArray => some (done (.array []) stack)
  | arrayStart stack, token => startValue (.array [] :: stack) token
  | objectStart stack, .closeObject => some (done (.object []) stack)
  | objectStart stack, .string text => some (colon [] text stack)
  | name members stack, .string text => some (colon members text stack)
  | colon members text stack, .colon => some (value (.object members text :: stack))
  | done tree (.array items :: stack), .comma => some (value (.array (tree :: items) :: stack))
  | done tree (.array items :: stack), .closeArray =>
    some (done (.array (tree :: items).reverse) stack)
  | done tree (.object members text :: stack), .comma =>
    some (name ((text, tree) :: members) stack)
  | done tree (.object members text :: stack), .closeObject =>
    some (done (.object ((text, tree) :: members).reverse) stack)
  | _, _ => none

/-- The tree, once it is complete and nothing is open. -/
def tree? : ReaderState → Option Tree
  | done tree [] => some tree
  | _ => none

end ReaderState

namespace Tree

/-- Reads tokens to the end of the text. -/
def readFrom? (state : ReaderState) (text : List Char) : Option Tree :=
  match _h : text.dropWhile Token.isBlank with
  | [] => state.tree?
  | c :: rest =>
    match _read : Token.read? c rest with
    | none => none
    | some (token, after) =>
      match state.step token with
      | none => none
      | some next => readFrom? next after
termination_by text.length
decreasing_by
  have shorter := Token.length_read? _read
  have suffix := (List.dropWhile_sublist (l := text) Token.isBlank).length_le
  rw [_h, List.length_cons] at suffix
  omega

/-- The tree of a text that holds one value and nothing else but blanks. -/
def ofText? (text : String) : Option Tree :=
  readFrom? (.value []) text.toList

end Tree

end Forklift.Json
