import Criteria.CommandLine.Program

/-!
# The main program

Looks up the variables and reads the files that a call may need, and puts the answer out: the text
on standard output, the log and the report of a failure on standard error.
-/

namespace Criteria.CommandLine

/-- The variables that a call may look at. -/
def variableNames : List String :=
  ["CRITVEC_CRITERIA", "CRITVEC_SUITE", "CRITVEC_LOG", "RUST_LOG", "CRITVEC_LOG_FORMAT"]

/-- The fault of a file that the system did not let us read. A path that goes on behind a file fails
when it is opened, and a directory when it is read. -/
def fileFault : IO.Error → FileFault
  | .noFileOrDirectory .. => .missing
  | .inappropriateType (some _) .. => .notDirectory
  | .inappropriateType none .. => .directory
  | .invalidArgument .. => .tooLong
  | problem => .refused (toString problem)

/-- Look at what is under a path. -/
def lookAt (path : String) : IO FileState := do
  try
    return .ok (← IO.FS.readBinFile path)
  catch problem => return .error (fileFault problem)

/-- Write a line of the log. -/
def writeLine : Log.Line → IO Unit
  | .text line => IO.eprintln line
  | .json line => IO.eprintln line.compact

end Criteria.CommandLine

open Criteria.CommandLine in
/-- Answer a call of the program. -/
def main (arguments : List String) : IO UInt32 := do
  let settings ← variableNames.mapM fun name => return (name, ← IO.getEnv name)
  let environment : Environment := fun name => (settings.lookup name).join
  let names ←
    match Invocation.ofArguments environment arguments with
    | .ok invocation => pure invocation.task.fileNames
    | .error .version => pure []
    | .error .help => IO.print usage; pure []
    | .error .usage => IO.eprint usage; pure []
  let found ← names.mapM fun name => return (name, ← lookAt name)
  let files : Files := fun name => (found.lookup name).getD (.error .missing)
  let answer := respond environment files arguments
  IO.print answer.stdout
  answer.log.forM writeLine
  IO.eprint answer.report
  return UInt32.ofNat answer.code
