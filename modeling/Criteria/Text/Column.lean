/-!
# Columns

A text in a column is cut to the column's precision, if it has one, and then filled with spaces
to the column's width. Widths count characters. A text wider than its column is not cut by the
width. Centred text has the odd space on its right.
-/

namespace Criteria.Text

/-- Where a text stands in its column. -/
inductive Alignment where
  | left
  | right
  | center
  deriving DecidableEq, Repr

/-- A column of a table. -/
structure Column where
  /-- The least number of characters that the column takes. -/
  width : Nat := 0
  /-- The greatest number of characters of a text that are shown. -/
  precision : Option Nat := none
  /-- Where a text stands that is narrower than the column. -/
  alignment : Alignment := .left
  deriving DecidableEq, Repr

/-- A text of so many spaces. -/
def spaces (n : Nat) : String :=
  String.ofList (List.replicate n ' ')

/-- The part of a text that a precision lets through. -/
def cut (precision : Option Nat) (text : String) : String :=
  match precision with
  | none => text
  | some p => String.ofList (text.toList.take p)

/-- Show a text in a column. -/
def Column.fill (column : Column) (text : String) : String :=
  let shown := cut column.precision text
  let missing := column.width - shown.length
  match column.alignment with
  | .left => shown ++ spaces missing
  | .right => spaces missing ++ shown
  | .center => spaces (missing / 2) ++ shown ++ spaces (missing - missing / 2)

example : ({ width := 5 } : Column).fill "ab" = "ab   " := by decide +kernel

example : ({ width := 5, alignment := .center } : Column).fill "ab" = " ab  " := by decide +kernel

example :
    ({ width := 3, precision := some 2, alignment := .right } : Column).fill "abcd" = " ab" := by
  decide +kernel

end Criteria.Text
