import Criteria.CommandLine.Task
import Criteria.Log.Line

/-!
# The program

A call of the program reads its arguments, does the task and answers with an exit code, the text
printed, the log and the report of a failure. The log is configured by the options and the
environment, and nothing else depends on that configuration.
-/

namespace Criteria.CommandLine

/-- The version of the program. -/
def version : String := "0.1.0"

/-- What a call of the program leaves behind. -/
structure Answer where
  /-- The exit code: zero, one after a failure, two after arguments that make no sense. -/
  code : Nat
  /-- The text printed. -/
  stdout : String
  /-- The lines of the log. -/
  log : List Log.Line
  /-- The report of a failure, or nothing. -/
  report : String

/-- The filter that a variable holds, if it is set and valid. -/
def filterVariable? (environment : Environment) (name : String) : Option Log.Filter :=
  (environment name).bind Log.Filter.ofDirective?

/-- Tell whether a text is a word, in capital or small letters. -/
def sameWord (text word : String) : Bool :=
  text.toList.map Char.toLower = word.toList

/-- The configuration of the log of a call. -/
def Invocation.logConfig (environment : Environment) (invocation : Invocation) : Log.Config where
  filter :=
    ((filterVariable? environment "CRITVEC_LOG").or
      (filterVariable? environment "RUST_LOG")).getD
        (some (if invocation.verbose then .debug else .info))
  json :=
    invocation.jsonLog ||
      (environment "CRITVEC_LOG_FORMAT").any fun format => sameWord format "json"

/-- Do the task of a call. -/
def Invocation.answer (environment : Environment) (files : Files) (invocation : Invocation) :
    Answer :=
  let done := invocation.task.run files
  let log := (invocation.logConfig environment).lines done.entries
  match done.outcome with
  | .ok () => ⟨0, done.printed, log, ""⟩
  | .error report => ⟨1, done.printed, log, report.render⟩

/-- Answer a call of the program. -/
def respond (environment : Environment) (files : Files) (arguments : List String) : Answer :=
  match Invocation.ofArguments environment arguments with
  | .ok invocation => invocation.answer environment files
  | .error .version => ⟨0, "critvec " ++ version ++ "\n", [], ""⟩
  | .error .help => ⟨0, "", [], ""⟩
  | .error .usage => ⟨2, "", [], ""⟩

end Criteria.CommandLine
