import Criteria.Json.Fault
import Criteria.Text.Quoted

/-!
# Faults

What can go wrong between a definition file and a tuned daemon. A fault carries its causes as data;
the words are in one function. A fault of a test case wraps the fault that stopped the case, and
the root of a fault is what is left without such wrappers.
-/

namespace Criteria

/-- Why a file cannot be read as text. -/
inductive FileFault where
  /-- There is no file under the path. -/
  | missing
  /-- The path goes on behind a file as if that were a directory. -/
  | notDirectory
  /-- The path leads to a directory. -/
  | directory
  /-- The path, or a name on it, is too long. -/
  | tooLong
  /-- The contents are not UTF-8. -/
  | notText
  /-- The system gave another reason. -/
  | refused (reason : String)
  deriving DecidableEq, Repr

/-- The words for a file fault. -/
def FileFault.message : FileFault → String
  | .missing => "No such file or directory (os error 2)"
  | .notDirectory => "Not a directory (os error 20)"
  | .directory => "Is a directory (os error 21)"
  | .tooLong => "File name too long (os error 36)"
  | .notText => "stream did not contain valid UTF-8"
  | .refused reason => reason

/-- What went wrong. -/
inductive Fault where
  /-- A line of a definition file is malformed. -/
  | malformed (line : Nat) (content reason : String)
  /-- A criterion does not allow a value. -/
  | invalidValue (criterion value : String)
  /-- A value that was to be removed is not held. -/
  | notSet (criterion value : String)
  /-- A test case could not be turned into a vector. -/
  | testCase (name : String) (source : Fault)
  /-- A command failed. -/
  | transport (reason : String)
  /-- A JSON text could not be read. -/
  | serialization (fault : Json.Fault)
  /-- A file could not be read. -/
  | file (fault : FileFault)
  deriving DecidableEq, Repr

namespace Fault

/-- The words for a fault. -/
def message : Fault → String
  | .malformed line content reason =>
    s!"malformed criterion definition at line {line}: {reason} ({Text.quote content})"
  | .invalidValue criterion value =>
    s!"invalid value {Text.quote value} for criterion {criterion}"
  | .notSet criterion value =>
    s!"value {Text.quote value} is not set on criterion {criterion}"
  | .testCase name source => s!"test case {name}: {source.message}"
  | .transport reason => s!"transport error: {reason}"
  | .serialization fault => s!"serialization error: {fault.message}"
  | .file fault => s!"io error: {fault.message}"

/-- Take the test cases off a fault. -/
def root : Fault → Fault
  | .testCase _ source => source.root
  | fault => fault

/-- The words for a fault and for each of its causes, the innermost last. -/
def chain : Fault → List String
  | .testCase name source => (Fault.testCase name source).message :: source.chain
  | .serialization fault => [(Fault.serialization fault).message, fault.message]
  | .file fault => [(Fault.file fault).message, fault.message]
  | fault => [fault.message]

end Fault

end Criteria
