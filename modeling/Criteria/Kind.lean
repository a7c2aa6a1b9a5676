import Criteria.Text.Column

/-!
# Kinds of criteria

A criterion is exclusive or inclusive. A kind has a canonical token, which definition files and
listings use, a shorter one that definition files also accept, and a name in JSON.
-/

namespace Criteria

/-- How a criterion holds values. -/
inductive Kind where
  /-- One value at a time. -/
  | exclusive
  /-- Any number of values at a time. -/
  | inclusive
  deriving DecidableEq, Repr

namespace Kind

/-- The canonical token of a kind. -/
def token : Kind → String
  | .exclusive => "ExclusiveCriterion"
  | .inclusive => "InclusiveCriterion"

/-- The name of a kind in JSON. -/
def name : Kind → String
  | .exclusive => "exclusive"
  | .inclusive => "inclusive"

/-- The tokens of each kind. -/
def tokens : List (String × Kind) :=
  [("ExclusiveCriterion", .exclusive), ("Exclusive", .exclusive),
    ("InclusiveCriterion", .inclusive), ("Inclusive", .inclusive)]

/-- Read a kind from one of its tokens. -/
def ofToken? (token : String) : Option Kind :=
  tokens.lookup token

/-- Show a kind in a column. -/
def shown (kind : Kind) (column : Text.Column) : String :=
  column.fill kind.token

/-- The canonical token of a kind is read back. -/
theorem ofToken?_token (kind : Kind) : ofToken? kind.token = some kind := by
  cases kind <;> decide +kernel

end Kind

end Criteria
