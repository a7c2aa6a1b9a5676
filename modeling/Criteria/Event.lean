import Criteria.Kind
import Criteria.Text.Quoted

/-!
# Events

Every step worth logging is an event. An event has a level and fields; most events name
themselves in a field, and the two of the command line carry a message instead. An entry of the
log is an event together with the vectors that were being built or pushed when it happened.
-/

namespace Criteria

/-- How important an event is, the most important first. -/
inductive Level where
  | error
  | warn
  | info
  | debug
  | trace
  deriving DecidableEq, Repr

/-- The rank of a level, `0` being the most important. -/
def Level.rank : Level → Nat
  | .error => 0
  | .warn => 1
  | .info => 2
  | .debug => 3
  | .trace => 4

/-- The word for a level. -/
def Level.word : Level → String
  | .error => "ERROR"
  | .warn => "WARN"
  | .info => "INFO"
  | .debug => "DEBUG"
  | .trace => "TRACE"

/-- Something worth logging. -/
inductive Event where
  /-- A definition text was read. -/
  | definitionsLoaded (count : Nat)
  /-- A criterion was registered under a new name. -/
  | registered (criterion : String) (kind : Kind)
  /-- A criterion was registered under a name that was taken. -/
  | replaced (criterion : String) (kind : Kind)
  /-- The criteria of a vector were built. -/
  | vectorGenerated (criteria : Nat) (baseline : Bool)
  /-- An override names no criterion. -/
  | unknownOverride (criterion : String)
  /-- A criterion does not allow a value. -/
  | valueRejected (criterion value : String)
  /-- A command was handed to the daemon. -/
  | commandSent (command : String) (args : List String)
  /-- All commands of a vector were accepted. -/
  | vectorApplied (vector testType : String) (commandsSent : Nat)
  /-- The criteria of a file were listed. -/
  | criteriaListed (count : Nat)
  /-- The vectors of a suite were printed. -/
  | vectorsPrinted (count : Nat)
  deriving DecidableEq, Repr

/-- The contents of a field of an event. -/
inductive FieldValue where
  /-- A number. -/
  | count (value : Nat)
  /-- A truth value. -/
  | flag (value : Bool)
  /-- A fixed name, which text logs show in quotes. -/
  | tag (value : String)
  /-- A text, which text logs show as it is. -/
  | text (value : String)
  deriving DecidableEq, Repr

namespace Event

/-- The level of an event. -/
def level : Event → Level
  | .definitionsLoaded .. | .vectorGenerated .. | .vectorApplied .. | .criteriaListed ..
  | .vectorsPrinted .. => .info
  | .registered .. | .commandSent .. => .debug
  | .replaced .. | .unknownOverride .. | .valueRejected .. => .warn

/-- The message of an event, if it has one. -/
def message? : Event → Option String
  | .criteriaListed .. => some "Listed criteria"
  | .vectorsPrinted .. => some "Generated test vectors"
  | _ => none

/-- The fields of an event, in the order in which they are shown. -/
def fields : Event → List (String × FieldValue)
  | .definitionsLoaded count => [("event", .tag "definitions.loaded"), ("count", .count count)]
  | .registered criterion kind =>
    [("event", .tag "registry.registered"), ("criterion", .text criterion),
      ("kind", .text kind.token)]
  | .replaced criterion kind =>
    [("event", .tag "registry.replaced"), ("criterion", .text criterion),
      ("kind", .text kind.token)]
  | .vectorGenerated criteria baseline =>
    [("event", .tag "vector.generated"), ("criteria", .count criteria),
      ("baseline", .flag baseline)]
  | .unknownOverride criterion =>
    [("event", .tag "vector.unknown_override"), ("criterion", .text criterion)]
  | .valueRejected criterion value =>
    [("event", .tag "criterion.rejected"), ("criterion", .text criterion), ("value", .text value)]
  | .commandSent command args =>
    [("event", .tag "transport.sent"), ("command", .text command),
      ("args", .text (Text.quoteList args))]
  | .vectorApplied vector testType commandsSent =>
    [("event", .tag "vector.applied"), ("vector", .text vector), ("test_type", .text testType),
      ("commands_sent", .count commandsSent)]
  | .criteriaListed count => [("count", .count count)]
  | .vectorsPrinted count => [("vectors", .count count)]

end Event

/-- An entry of the log. -/
structure Entry where
  /-- What happened. -/
  event : Event
  /-- The names of the vectors under way at the time, the outermost first. -/
  vectors : List String
  deriving DecidableEq, Repr

/-- An event that happened while no vector was under way. -/
def Event.entry (event : Event) : Entry := ⟨event, []⟩

/-- Put an entry inside a vector. -/
def Entry.within (vector : String) (entry : Entry) : Entry :=
  { entry with vectors := vector :: entry.vectors }

end Criteria
