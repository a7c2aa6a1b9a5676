import Criteria.File

/-!
# File trees

Files of text in a tree of directories, of which one is the working directory. A path is followed
name by name, from the root if it begins with a slash and from the working directory otherwise. An
empty name and a single dot stay in a directory, two dots lead to the one around it, and the root
is around itself. Nothing follows a file, not even an empty name. There are no empty directories
apart from the working directory, and no links.
-/

namespace Criteria

/-- Files in directories. -/
structure FileTree where
  /-- The names that lead from the root to the working directory. -/
  working : List String
  /-- The texts of the files, by the names that lead to them from the root. -/
  files : List (List String × String)
  deriving DecidableEq, Repr

namespace FileTree

/-- What names lead to. -/
inductive Node where
  /-- The directory that these names lead to from the root. -/
  | directory (names : List String)
  /-- A file of this text. -/
  | file (contents : String)
  deriving DecidableEq, Repr

/-- The greatest number of bytes of a name. -/
def nameLimit : Nat := 255

/-- The greatest number of bytes of a path. -/
def pathLimit : Nat := 4095

/-- Tell whether names lead from the root to a directory: the working directory, one around it, or
one that a file is in. -/
def isDirectory (tree : FileTree) (names : List String) : Bool :=
  names.isPrefixOf tree.working ||
    tree.files.any fun file => names.isPrefixOf file.1.dropLast

/-- Follow one name from a directory. -/
def enter (tree : FileTree) (directory : List String) (name : String) : Except FileFault Node :=
  if name = "" ∨ name = "." then .ok (.directory directory)
  else if name = ".." then .ok (.directory directory.dropLast)
  else if nameLimit < name.utf8ByteSize then .error .tooLong
  else
    let names := directory ++ [name]
    match tree.files.lookup names with
    | some contents => .ok (.file contents)
    | none => if tree.isDirectory names then .ok (.directory names) else .error .missing

/-- Follow names from one another. -/
def follow (tree : FileTree) : Node → List String → Except FileFault Node
  | node, [] => .ok node
  | .file _, _ :: _ => .error .notDirectory
  | .directory directory, name :: names => do tree.follow (← tree.enter directory name) names

/-- Find what is under a path. -/
def find (tree : FileTree) (path : String) : FileState := do
  if path = "" then .error .missing
  else if pathLimit < path.utf8ByteSize then .error .tooLong
  else
    let start := if path.toList.head? = some '/' then [] else tree.working
    let names := (path.toList.splitOn '/').map String.ofList
    match ← tree.follow (.directory start) names with
    | .directory _ => .error .directory
    | .file contents => FileState.ofText contents

example : (follow ⟨["home"], [(["home", "a"], "x")]⟩ (.directory ["home"])
    ["..", "home", ".", "a"]).toOption = some (.file "x") := by
  decide +kernel

example : follow ⟨["home"], [(["home", "a"], "x")]⟩ (.directory ["home"]) ["a", ""] =
    .error .notDirectory := rfl

end FileTree

end Criteria
