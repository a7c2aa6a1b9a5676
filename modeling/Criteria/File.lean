import Criteria.Encoding
import Criteria.Registry

/-!
# Files

What is found under a path, and what the loaders make of it. A file that cannot be read as text is a
fault before anything in it is looked at.
-/

namespace Criteria

/-- What is found under a path: the bytes of a file, or why there are none. -/
abbrev FileState := Except FileFault ByteArray

/-- A file of a text. -/
def FileState.ofText (contents : String) : FileState := .ok contents.toUTF8

/-- Read a file as text. -/
def FileState.read : FileState → Except Fault String
  | .error fault => .error (.file fault)
  | .ok contents =>
    match String.fromUTF8? contents with
    | some text => .ok text
    | none => .error (.file .notText)

/-- Read the definitions of a file. -/
def Definition.loadFile (file : FileState) : Traced (List Definition) := do
  Definition.load (← Traced.ofExcept file.read)

/-- Read the definitions of a file into a new registry. -/
def Registry.ofFile (file : FileState) : Traced Registry := do
  Registry.empty.registerAll (← Definition.loadFile file)

/-- Read a suite from a file of JSON text. -/
def TestSuite.ofFile (file : FileState) : Except Fault TestSuite := do
  TestSuite.ofText (← file.read)

end Criteria
