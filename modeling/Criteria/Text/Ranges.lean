/-!
# Ranges of characters

A class of characters is given by a table of closed ranges of code points in ascending order, with
at least one code point between any two of them. So a class has one table only.
-/

namespace Criteria.Text

/-- A table of closed ranges of code points. -/
abbrev Ranges := List (Nat × Nat)

namespace Ranges

/-- Tell whether a character is in one of the ranges. -/
def contains (ranges : Ranges) (c : Char) : Bool :=
  ranges.any fun range => range.1 ≤ c.toNat && c.toNat ≤ range.2

/-- Tell whether the ranges ascend with gaps between them. -/
def ascend (ranges : Ranges) : Bool :=
  (ranges.zip ranges.tail).all fun (range, next) => range.2 + 1 < next.1

/-- The number of code points in the ranges. -/
def count (ranges : Ranges) : Nat :=
  ranges.foldl (fun count range => count + (range.2 + 1 - range.1)) 0

end Ranges

end Criteria.Text
