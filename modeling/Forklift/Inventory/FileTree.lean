import Forklift.Inventory.File

/-! # File trees

A file tree holds files and directories by name, and answers for each path as an operating system
does that has the root of the tree as its working directory. What lies outside the tree is taken to
be an empty directory.
-/

namespace Forklift

/-- Why a path leads nowhere. -/
inductive PathError where
  /-- Some part of the path is not there. -/
  | notFound
  /-- The path goes on behind a file. -/
  | notDirectory
  /-- A directory has no content. -/
  | isDirectory
  /-- The path or some part of it has too many bytes. -/
  | nameTooLong
  /-- The path has a NUL. -/
  | unexpectedNul
deriving DecidableEq, Repr

/-- What the system says. -/
def PathError.message : PathError → String
  | notFound => "No such file or directory (os error 2)"
  | notDirectory => "Not a directory (os error 20)"
  | isDirectory => "Is a directory (os error 21)"
  | nameTooLong => "File name too long (os error 36)"
  | unexpectedNul => "file name contained an unexpected NUL byte"

/-- What a name stands for. -/
inductive FileNode where
  | file (content : ByteArray)
  | directory

/-- Files and directories under the parts of their paths. A directory is there if it is listed or
holds something that is. -/
structure FileTree where
  entries : List (List (List Char) × FileNode)

namespace FileTree

def empty : FileTree :=
  ⟨[]⟩

/-- The place that a name stands for, counted from the root. -/
def placeOf (name : String) : List (List Char) :=
  (Path.parts name).filter Path.isProper

/-- The tree in which a name stands for a node. -/
def insert (tree : FileTree) (name : String) (node : FileNode) : FileTree :=
  ⟨(placeOf name, node) :: tree.entries.filter (·.1 ≠ placeOf name)⟩

/-- The tree without the file of a name. The directory that held the file stays. -/
def erase (tree : FileTree) (name : String) : FileTree :=
  match tree.entries.find? (·.1 == placeOf name) with
  | some (place, .file _) =>
    ⟨(place.dropLast, .directory) :: tree.entries.filter (·.1 ≠ place)⟩
  | _ => tree

/-- What lies at a place, counted from the root. -/
def node? (tree : FileTree) (place : List (List Char)) : Option FileNode :=
  match tree.entries.find? (·.1 == place) with
  | some (_, node) => some node
  | none =>
    if place = [] || tree.entries.any (place.isPrefixOf ·.1) then some .directory else none

/-- Where a path has led so far. -/
inductive Place where
  /-- A directory of the tree; its parts, last first. -/
  | inside (parts : List (List Char))
  /-- A file of the tree. -/
  | atFile (content : ByteArray)
  /-- A directory outside the tree. -/
  | outside

/-- The most bytes that a part may have. -/
def maxNameBytes : Nat := 255

/-- The most bytes that a path may have. -/
def maxPathBytes : Nat := 4095

/-- Follows one part of a path. -/
def follow (tree : FileTree) (place : Place) (part : List Char) : Except PathError Place :=
  match place with
  | .atFile _ => .error .notDirectory
  | .outside =>
    if part = [] || part = ['.'] || part = ['.', '.'] then .ok .outside
    else if maxNameBytes < Text.byteLength part then .error .nameTooLong
    else .error .notFound
  | .inside parts =>
    if part = [] || part = ['.'] then .ok (.inside parts)
    else if part = ['.', '.'] then
      match parts with
      | [] => .ok .outside
      | _ :: parent => .ok (.inside parent)
    else if maxNameBytes < Text.byteLength part then .error .nameTooLong
    else
      match tree.node? (part :: parts).reverse with
      | some .directory => .ok (.inside (part :: parts))
      | some (.file content) => .ok (.atFile content)
      | none => .error .notFound

/-- Where a path leads. A path that starts with a slash leaves the tree. -/
def locate (tree : FileTree) (path : String) : Except PathError Place :=
  if path.toList.contains '\x00' then .error .unexpectedNul
  else if maxPathBytes < path.utf8ByteSize then .error .nameTooLong
  else
    match Path.parts path with
    | [] | [[]] => .error .notFound
    | [] :: parts => parts.foldlM tree.follow .outside
    | parts => parts.foldlM tree.follow (.inside [])

/-- The size that a directory shows. -/
def directorySize : Nat := 4096

def size (tree : FileTree) (path : String) : Except PathError Nat := do
  match ← tree.locate path with
  | .atFile content => return content.size
  | _ => return directorySize

def content (tree : FileTree) (path : String) : Except PathError ByteArray := do
  match ← tree.locate path with
  | .atFile content => return content
  | _ => .error .isDirectory

/-- The tree as it is seen through paths. -/
def view (tree : FileTree) : FileView where
  size path := (tree.size path).mapError PathError.message
  content path := (tree.content path).mapError PathError.message

end FileTree

end Forklift
