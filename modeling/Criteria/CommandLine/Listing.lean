import Criteria.Encoding
import Criteria.Push

/-!
# Listings

The texts that the tasks print: the criteria of a registry in columns, vectors as text or as JSON,
and the commands of a push.
-/

namespace Criteria.CommandLine

/-- The columns of a listing of criteria. -/
def column : Text.Column := { width := 20 }

/-- The line of a definition: its kind, its name and its values. -/
def definitionLine (definition : Definition) : String :=
  definition.kind.shown column ++ " " ++ column.fill definition.name ++ " " ++
    " ".intercalate definition.allowed ++ "\n"

/-- The listing of the definitions of a registry. -/
def definitionListing (registry : Registry) : String :=
  String.join (registry.definitions.toList.map definitionLine)

/-- A vector as text: its name with the beginning of its digest, its lines and an empty line. -/
def vectorText (vector : TestVector) : String :=
  "# " ++ vector.name ++ " [" ++ String.ofList (vector.digest.toList.take 12) ++ "]\n" ++
    vector.render ++ "\n"

/-- The reports of vectors as JSON. -/
def vectorsJson (vectors : List TestVector) : String :=
  (Json.Codec.list VectorReport.codec).encodePretty (vectors.map TestVector.report) ++ "\n"

/-- Vectors as text or as JSON. -/
def vectorListing (json : Bool) (vectors : List TestVector) : String :=
  if json then vectorsJson vectors else String.join (vectors.map vectorText)

/-- The line in front of the commands of a vector. -/
def planHeader (vector : TestVector) : String :=
  "# " ++ vector.name ++ " (" ++ vector.testType ++ ")\n"

/-- Commands as lines. -/
def commandLines (commands : List Command) : String :=
  String.join (commands.map fun command => command.line ++ "\n")

end Criteria.CommandLine
