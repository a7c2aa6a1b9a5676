/-!
# Lines

A line ends at a line feed, and one carriage return before the line feed belongs to the line
end. The text after the last line feed is a line only if it holds something, and then it keeps
its carriage return.
-/

namespace Criteria.Text

/-- Drop one carriage return from the end of a line. -/
def chomp (line : List Char) : List Char :=
  if line.getLast? = some '\r' then line.dropLast else line

/-- Turn the pieces between line feeds into lines: all but the last were ended by one. -/
def linesOfPieces : List (List Char) → List (List Char)
  | [] => []
  | [last] => if last.isEmpty then [] else [last]
  | piece :: next :: rest => chomp piece :: linesOfPieces (next :: rest)

/-- The lines of a list of characters. -/
def lineLists (cs : List Char) : List (List Char) :=
  linesOfPieces (cs.splitOn '\n')

/-- The lines of a text, from top to bottom. -/
def lines (text : String) : List String :=
  (lineLists text.toList).map String.ofList

example : lines "a\r\n\nb\r" = ["a", "", "b\r"] := by decide +kernel

example : lines "a\n" = ["a"] ∧ lines "" = [] ∧ lines "\n" = [""] := by decide +kernel

end Criteria.Text
