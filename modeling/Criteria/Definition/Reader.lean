import Criteria.Definition
import Criteria.Text.Blank
import Criteria.Text.Lines
import Criteria.Traced

/-!
# Definition files

A definition file has one definition a line: a kind, a name, a colon and at least one value, with
white space between. There are no comments and no blank lines. The first line that is no definition
makes the whole file malformed, and the first thing wrong with that line is reported.
-/

namespace Criteria.Definition

/-- What is wrong with a line. -/
inductive Flaw where
  /-- There is no colon. -/
  | noSeparator
  /-- There are two or more colons. -/
  | separators
  /-- Not two but so many words stand before the colon. -/
  | head (words : Nat)
  /-- The first word is no kind. -/
  | kind (word : String)
  /-- No word stands behind the colon. -/
  | noValues
  deriving DecidableEq, Repr

/-- The words for a flaw. -/
def Flaw.describe : Flaw → String
  | .noSeparator => "missing ':' separator"
  | .separators => "multiple ':' separators"
  | .head words => s!"expected '<kind> <name>', found {words} token(s)"
  | .kind word => s!"unknown criterion kind {Text.quote word}"
  | .noValues => "empty value list"

/-- Read a definition from the words before the colon and the text behind it. -/
def ofParts (head : List String) (values : String) : Except Flaw Definition :=
  match head with
  | [kindWord, name] =>
    match Kind.ofToken? kindWord with
    | none => .error (.kind kindWord)
    | some kind =>
      match Text.words values with
      | [] => .error .noValues
      | value :: more => .ok (ofValues kind name (value :: more))
  | head => .error (.head head.length)

/-- Read a definition from a line. -/
def ofLine (line : String) : Except Flaw Definition :=
  match line.toList.splitOn ':' with
  | [head, values] => ofParts (Text.words (String.ofList head)) (String.ofList values)
  | [] => .error .noSeparator
  | [_] => .error .noSeparator
  | _ => .error .separators

/-- Read definitions from lines, the first of which has the given number. -/
def ofLines : Nat → List String → Except Fault (List Definition)
  | _, [] => .ok []
  | number, line :: rest =>
    match ofLine line with
    | .error flaw => .error (.malformed number line flaw.describe)
    | .ok definition => (ofLines (number + 1) rest).map (definition :: ·)

/-- Read the definitions of a text. -/
def parse (text : String) : Except Fault (List Definition) :=
  ofLines 1 (Text.lines text)

/-- Read the definitions of a text and report their number. -/
def load (text : String) : Traced (List Definition) := do
  let definitions ← Traced.ofExcept (parse text)
  Traced.emit (.definitionsLoaded definitions.length)
  return definitions

example : (ofLine "Inclusive Flags:a b a").toOption = some ⟨.inclusive, "Flags", ["a", "b"]⟩ := by
  decide +kernel

end Criteria.Definition
