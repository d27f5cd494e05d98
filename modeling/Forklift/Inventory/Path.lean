/-! # Paths

A path is a text whose parts are separated by slashes. Empty parts and single dots name nothing, so
the file name is the last of the other parts, and a path that ends in two dots has none.
-/

namespace Forklift.Path

/-- The parts between the slashes of a text; the last part first, and the characters of a part in
`part` last first. -/
def splitParts (parts : List (List Char)) (part : List Char) : List Char → List (List Char)
  | [] => (part.reverse :: parts).reverse
  | c :: rest =>
    if c = '/' then splitParts (part.reverse :: parts) [] rest
    else splitParts parts (c :: part) rest

/-- The parts between the slashes of a path. -/
def parts (path : String) : List (List Char) :=
  splitParts [] [] path.toList

/-- Whether a part names something. -/
def isProper (part : List Char) : Bool :=
  part ≠ [] && part ≠ ['.']

/-- The file name that a path ends in. -/
def fileName? (path : String) : Option (List Char) :=
  match ((parts path).filter isProper).getLast? with
  | none | some ['.', '.'] => none
  | some name => some name

/-- What follows the last dot of a name, unless that dot is the first character. -/
def extensionOf? (name : List Char) : Option (List Char) :=
  let ending := name.reverse.takeWhile (· ≠ '.')
  let front := name.length - ending.length
  if front ≤ 1 then none else some ending.reverse

/-- The extension of the file name that a path ends in. -/
def extension? (path : String) : Option (List Char) :=
  (fileName? path).bind extensionOf?

end Forklift.Path
