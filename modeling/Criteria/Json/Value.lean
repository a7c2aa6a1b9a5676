/-!
# JSON values

A JSON value as a program builds it before printing. A record keeps its members in the order in
which they are to be written. Numbers are counts, so they are natural.
-/

namespace Criteria

/-- A JSON value. -/
inductive Json where
  /-- The literal `null`. -/
  | null
  /-- A boolean. -/
  | flag (value : Bool)
  /-- A natural number. -/
  | count (value : Nat)
  /-- A string. -/
  | text (value : String)
  /-- An array. -/
  | list (items : List Json)
  /-- An object, its members in writing order. -/
  | record (members : List (String × Json))
  deriving Inhabited, Repr

end Criteria
