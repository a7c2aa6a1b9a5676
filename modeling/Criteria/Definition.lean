import Criteria.Kind

/-!
# Definitions of criteria

A definition gives a criterion its kind, its name and the values it allows. It never changes; the
criteria bound to it hold the state.
-/

namespace Criteria

/-- The value of a criterion that is not set. -/
def noValue : String := "0"

/-- The definition of a criterion. -/
structure Definition where
  /-- How the criterion holds values. -/
  kind : Kind
  /-- The name of the criterion. -/
  name : String
  /-- The values that the criterion allows, in the order in which they were declared. -/
  allowed : List String
  deriving DecidableEq, Repr

namespace Definition

/-- Define a criterion, keeping the first of equal values. -/
def ofValues (kind : Kind) (name : String) (values : List String) : Definition :=
  ⟨kind, name, values.eraseDups⟩

/-- Tell whether a criterion allows a value. -/
def allows (definition : Definition) (value : String) : Bool :=
  definition.allowed.contains value

end Definition

end Criteria
