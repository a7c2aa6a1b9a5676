/-!
# Arguments

The arguments name one task, and options before or behind it. Options of the whole program may stand
in either place; the others stand behind the task they belong to. An option with a value takes it
from the same argument or from the next one, which must not look like an option. Letters of options
without values may share one argument. Nothing may be given twice in one place.

A file name that is not given is taken from the environment. The arguments are read from left to
right, and the first request for help, or the first argument that makes no sense, decides.
-/

namespace Criteria.CommandLine

/-- What the program can be asked to do. -/
inductive Verb where
  /-- List the criteria. -/
  | list
  /-- Print the baseline. -/
  | baseline
  /-- Print the vectors of a suite. -/
  | generate
  /-- Print the commands that would push a suite. -/
  | plan
  deriving DecidableEq, Repr

/-- The words for the verbs. -/
def Verb.words : List (String × Verb) :=
  [("list", .list), ("baseline", .baseline), ("generate", .generate), ("plan", .plan)]

/-- An option. -/
inductive Key where
  | verbose
  | jsonLog
  | help
  | version
  | criteria
  | suite
  | name
  | outputJson
  deriving DecidableEq, Repr

/-- The name of an option behind two hyphens. -/
def Key.long : Key → String
  | .verbose => "verbose"
  | .jsonLog => "json"
  | .help => "help"
  | .version => "version"
  | .criteria => "criteria"
  | .suite => "suite"
  | .name => "name"
  | .outputJson => "output-json"

/-- The letter of an option behind one hyphen. -/
def Key.short? : Key → Option Char
  | .verbose => some 'v'
  | .help => some 'h'
  | .version => some 'V'
  | .criteria => some 'c'
  | .suite => some 's'
  | .name => some 'n'
  | .jsonLog | .outputJson => none

/-- Tell whether an option has a value. -/
def Key.takesValue : Key → Bool
  | .criteria | .suite | .name => true
  | .verbose | .jsonLog | .help | .version | .outputJson => false

/-- Tell whether the value of an option is a file name, which is never empty. -/
def Key.isFileName : Key → Bool
  | .criteria | .suite => true
  | _ => false

/-- The options in front of the task. -/
def rootKeys : List Key := [.verbose, .jsonLog, .help, .version]

/-- The options behind a task. -/
def Verb.keys : Verb → List Key
  | .list => [.verbose, .jsonLog, .help, .criteria]
  | .baseline => [.verbose, .jsonLog, .help, .criteria, .name, .outputJson]
  | .generate => [.verbose, .jsonLog, .help, .criteria, .suite, .outputJson]
  | .plan => [.verbose, .jsonLog, .help, .criteria, .suite]

/-- The options given in one place, with their values. -/
abbrev Given := List (Key × String)

/-- Why the reading of arguments ends before the last one. -/
inductive Halt where
  /-- An argument makes no sense. -/
  | usage
  /-- Help is asked for. -/
  | help
  /-- The version is asked for. -/
  | version
  deriving DecidableEq, Repr

/-- Note an option. -/
def Given.note (given : Given) (key : Key) (value : String) : Except Halt Given :=
  if given.any fun earlier => earlier.1 = key then .error .usage
  else if key.isFileName ∧ value = "" then .error .usage
  else
    match key with
    | .help => .error .help
    | .version => .error .version
    | key => .ok ((key, value) :: given)

/-- Tell whether an argument looks like an option. -/
def looksLikeOption (argument : String) : Bool :=
  match argument.toList with
  | '-' :: _ :: _ => true
  | _ => false

/-- Read the letters of an argument behind one hyphen. A letter that has a value takes the rest of
the argument, without an equals sign, or is returned to take the next argument. -/
def readLetters (keys : List Key) : List Char → Given → Except Halt (Given × Option Key)
  | [], given => .ok (given, none)
  | letter :: rest, given =>
    match keys.find? fun key => key.short? = some letter with
    | none => .error .usage
    | some key =>
      if key.takesValue then
        match rest with
        | [] => .ok (given, some key)
        | c :: more => do
          let value := if c = '=' then more else c :: more
          return (← given.note key (String.ofList value), none)
      else do
        readLetters keys rest (← given.note key "")

/-- Read the name of an option behind two hyphens, and its value if it is in the same argument. -/
def readLong (keys : List Key) (cs : List Char) (given : Given) :
    Except Halt (Given × Option Key) :=
  let name := String.ofList (cs.takeWhile (· ≠ '='))
  match keys.find? fun key => key.long = name, cs.dropWhile (· ≠ '=') with
  | none, _ => .error .usage
  | some key, [] =>
    if key.takesValue then .ok (given, some key)
    else (given.note key "").map fun given => (given, none)
  | some key, _ :: value =>
    if key.takesValue then
      (given.note key (String.ofList value)).map fun given => (given, none)
    else .error .usage

/-- What is left when no more options stand in front. -/
structure Options where
  /-- The options given. -/
  given : Given
  /-- The first argument that is no option, and those behind it. -/
  rest : List String
  deriving DecidableEq, Repr

/-- Read options up to the first argument that is none. Nothing may stand behind two hyphens. The
option that is waiting for its value, if there is one, takes the first argument. -/
def readOptions (keys : List Key) : List String → Option Key → Given → Except Halt Options
  | [], none, given => .ok ⟨given, []⟩
  | [], some _, _ => .error .usage
  | argument :: rest, some key, given => do
    if looksLikeOption argument then .error .usage
    else readOptions keys rest none (← given.note key argument)
  | argument :: rest, none, given =>
    match argument.toList with
    | ['-', '-'] => if rest.isEmpty then .ok ⟨given, []⟩ else .error .usage
    | '-' :: '-' :: name => do
      let (given, waiting) ← readLong keys name given
      readOptions keys rest waiting given
    | '-' :: letter :: letters => do
      let (given, waiting) ← readLetters keys (letter :: letters) given
      readOptions keys rest waiting given
    | _ => .ok ⟨given, argument :: rest⟩

/-- A task with all that it needs. -/
inductive Task where
  | list (criteria : String)
  | baseline (criteria name : String) (json : Bool)
  | generate (criteria suite : String) (json : Bool)
  | plan (criteria suite : String)
  deriving DecidableEq, Repr

/-- The files that a task reads. -/
def Task.fileNames : Task → List String
  | .list criteria => [criteria]
  | .baseline criteria _ _ => [criteria]
  | .generate criteria suite _ => [criteria, suite]
  | .plan criteria suite => [criteria, suite]

/-- A call of the program. -/
structure Invocation where
  /-- What to do. -/
  task : Task
  /-- Whether to log in more detail. -/
  verbose : Bool
  /-- Whether to log in JSON. -/
  jsonLog : Bool
  deriving DecidableEq, Repr

/-- The variables of the environment. -/
abbrev Environment := String → Option String

/-- The variable that a file name is taken from. -/
def Key.variableName? : Key → Option String
  | .criteria => some "CRITVEC_CRITERIA"
  | .suite => some "CRITVEC_SUITE"
  | _ => none

/-- Find a file name among the options or in the environment. -/
def fileName (environment : Environment) (given : Given) (key : Key) : Except Halt String :=
  match (given.lookup key).or (key.variableName?.bind environment) with
  | none => .error .usage
  | some name => if name = "" then .error .usage else .ok name

/-- Put the task of a verb together. -/
def Verb.task (environment : Environment) (given : Given) : Verb → Except Halt Task
  | .list => do return .list (← fileName environment given .criteria)
  | .baseline => do
    return .baseline (← fileName environment given .criteria)
      ((given.lookup .name).getD "baseline") (given.lookup .outputJson).isSome
  | .generate => do
    return .generate (← fileName environment given .criteria)
      (← fileName environment given .suite) (given.lookup .outputJson).isSome
  | .plan => do
    return .plan (← fileName environment given .criteria) (← fileName environment given .suite)

/-- Read the words behind `help`: at most one, which names what help is asked for. -/
def readHelp : List String → Halt
  | [] => .help
  | [word] => if word = "help" ∨ (Verb.words.lookup word).isSome then .help else .usage
  | _ => .usage

/-- Read the arguments of a call. -/
def Invocation.ofArguments (environment : Environment) (arguments : List String) :
    Except Halt Invocation := do
  let outer ← readOptions rootKeys arguments none []
  match outer.rest with
  | [] => .error .usage
  | word :: rest =>
    if word = "help" then .error (readHelp rest)
    else
      match Verb.words.lookup word with
      | none => .error .usage
      | some verb =>
        let inner ← readOptions verb.keys rest none []
        if inner.rest.isEmpty then
          let has (key : Key) : Bool :=
            (outer.given.lookup key).isSome || (inner.given.lookup key).isSome
          return ⟨← verb.task environment inner.given, has .verbose, has .jsonLog⟩
        else .error .usage

/-- A summary of the arguments. -/
def usage : String :=
  "Usage: critvec [--verbose] [--json] <task>\n\n" ++
    "  list      --criteria FILE\n" ++
    "  baseline  --criteria FILE [--name NAME] [--output-json]\n" ++
    "  generate  --criteria FILE --suite FILE [--output-json]\n" ++
    "  plan      --criteria FILE --suite FILE\n"

end Criteria.CommandLine
