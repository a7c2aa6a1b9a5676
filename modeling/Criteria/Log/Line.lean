import Criteria.Json.Value
import Criteria.Log.Filter

/-!
# Log lines

An entry that the filter lets through is a line of text or a JSON object. The vectors around it are
shown too, but as a vector counts as something of level info, a filter that hides that level hides
them. Lines carry no time.
-/

namespace Criteria.Log

/-- How entries are logged. -/
structure Config where
  /-- Which entries are logged. -/
  filter : Filter
  /-- Whether the lines are JSON. -/
  json : Bool
  deriving DecidableEq, Repr

/-- A line of a log. -/
inductive Line where
  | text (line : String)
  | json (line : Json)

/-- The name under which a vector is shown around an entry. -/
def vectorSpan : String := "critvec.vector"

/-- The vectors around an entry that are shown. -/
def Config.shownVectors (config : Config) (entry : Entry) : List String :=
  if config.filter.allows .info then entry.vectors else []

/-- The contents of a field in a line of text. -/
def FieldValue.toText : FieldValue → String
  | .count value => toString value
  | .flag value => toString value
  | .tag value => Text.quote value
  | .text value => value

/-- The contents of a field in a JSON line. -/
def FieldValue.toJson : FieldValue → Json
  | .count value => .count value
  | .flag value => .flag value
  | .tag value => .text value
  | .text value => .text value

/-- An entry as a line of text: the level to the right in five characters, the vectors around it,
its message and its fields. -/
def textLine (vectors : List String) (event : Event) : String :=
  let level := ({ width := 5, alignment := .right } : Text.Column).fill event.level.word
  let around := vectors.map fun vector => vectorSpan ++ "\x7bvector=" ++ vector ++ "\x7d"
  let fields := event.fields.map fun (name, value) => name ++ "=" ++ FieldValue.toText value
  level ++ " " ++ (if around.isEmpty then "" else ":".intercalate around ++ ": ") ++
    " ".intercalate (event.message?.toList ++ fields)

/-- A vector around an entry as a JSON object. -/
def vectorJson (vector : String) : Json :=
  .record [("vector", .text vector), ("name", .text vectorSpan)]

/-- An entry as a JSON object. -/
def jsonLine (vectors : List String) (event : Event) : Json :=
  let message := event.message?.toList.map fun message => ("message", Json.text message)
  let fields := event.fields.map fun (name, value) => (name, FieldValue.toJson value)
  let around :=
    match vectors.getLast? with
    | none => []
    | some innermost =>
      [("span", vectorJson innermost), ("spans", Json.list (vectors.map vectorJson))]
  .record ([("level", .text event.level.word), ("fields", .record (message ++ fields))] ++ around)

/-- The line of an entry. -/
def Config.line (config : Config) (entry : Entry) : Line :=
  let vectors := config.shownVectors entry
  if config.json then .json (jsonLine vectors entry.event) else .text (textLine vectors entry.event)

/-- The lines of a log: one for each entry that the filter lets through. -/
def Config.lines (config : Config) (entries : List Entry) : List Line :=
  (entries.filter fun entry => config.filter.allows entry.event.level).map config.line

example : textLine ["r"] (.vectorGenerated 2 true) =
    " INFO critvec.vector\x7bvector=r\x7d: " ++
      "event=\"vector.generated\" criteria=2 baseline=true" := by
  decide +kernel

end Criteria.Log
