import Criteria.Json.Value

/-!
# Printing JSON

One printer serves two layouts. The compact layout writes no white space. The indented layout
puts every item and member on a line of its own, a space after each colon, and writes an empty
array or object as its two brackets. Strings escape the quote, the backslash and the characters
below the space, and nothing else.
-/

namespace Criteria.Json

/-- How the parts of a value are spread over lines. -/
inductive Layout where
  /-- No white space at all. -/
  | compact
  /-- A line for each item, indented by so many spaces a level. -/
  | indented (step : Nat)
  deriving DecidableEq, Repr

/-- The white space before an item or a closing bracket at a depth. -/
def Layout.gap : Layout → Nat → List Char
  | .compact, _ => []
  | .indented step, depth => '\n' :: List.replicate (step * depth) ' '

/-- The colon between the name of a member and its value. -/
def Layout.colon : Layout → List Char
  | .compact => [':']
  | .indented _ => [':', ' ']

/-- Write one character of a string. -/
def escapeChar (c : Char) : List Char :=
  if c = '"' then ['\\', '"']
  else if c = '\\' then ['\\', '\\']
  else if c = '\u0008' then ['\\', 'b']
  else if c = '\u000c' then ['\\', 'f']
  else if c = '\n' then ['\\', 'n']
  else if c = '\r' then ['\\', 'r']
  else if c = '\t' then ['\\', 't']
  else if c.toNat < 0x20 then
    ['\\', 'u', '0', '0', Nat.digitChar (c.toNat / 16), Nat.digitChar (c.toNat % 16)]
  else [c]

/-- Write a string with its quotes. -/
def printText (text : String) : List Char :=
  '"' :: (text.toList.flatMap escapeChar ++ ['"'])

mutual

/-- Write a value that stands at a depth. -/
def print (layout : Layout) (depth : Nat) : Json → List Char
  | .null => ['n', 'u', 'l', 'l']
  | .flag true => ['t', 'r', 'u', 'e']
  | .flag false => ['f', 'a', 'l', 's', 'e']
  | .count n => Nat.toDigits 10 n
  | .text s => printText s
  | .list [] => ['[', ']']
  | .list (item :: items) =>
    '[' :: (layout.gap (depth + 1) ++ print layout (depth + 1) item ++
      printItems layout depth items)
  | .record [] => ['{', '}']
  | .record ((name, value) :: members) =>
    '{' :: (layout.gap (depth + 1) ++ printText name ++ layout.colon ++
      print layout (depth + 1) value ++ printMembers layout depth members)

/-- Write the items after the first, and the closing bracket. -/
def printItems (layout : Layout) (depth : Nat) : List Json → List Char
  | [] => layout.gap depth ++ [']']
  | item :: items =>
    ',' :: (layout.gap (depth + 1) ++ print layout (depth + 1) item ++
      printItems layout depth items)

/-- Write the members after the first, and the closing brace. -/
def printMembers (layout : Layout) (depth : Nat) : List (String × Json) → List Char
  | [] => layout.gap depth ++ ['}']
  | (name, value) :: members =>
    ',' :: (layout.gap (depth + 1) ++ printText name ++ layout.colon ++
      print layout (depth + 1) value ++ printMembers layout depth members)

end

/-- The text of a value in a layout. -/
def toText (layout : Layout) (value : Json) : String :=
  String.ofList (print layout 0 value)

/-- The text of a value on one line. -/
def compact (value : Json) : String :=
  toText .compact value

/-- The text of a value over several lines, indented by two spaces. -/
def pretty (value : Json) : String :=
  toText (.indented 2) value

example : compact (.record [("a", .list [.count 1, .null]), ("b", .list [])]) =
    "\x7b\"a\":[1,null],\"b\":[]\x7d" := by decide +kernel

example : pretty (.list [.text "a\n", .record []]) = "[\n  \"a\\n\",\n  \x7b\x7d\n]" := by
  decide +kernel

end Criteria.Json
