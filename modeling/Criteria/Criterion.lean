import Criteria.Definition
import Criteria.Text.Blank
import Criteria.Traced
import Std.Data.ExtTreeSet.Lemmas

/-!
# Criteria

A criterion is a definition together with the value or values held. An exclusive criterion holds
one value, which is `"0"` while nothing is set. An inclusive criterion holds a set of values; it is
shown as `"0"` while the set is empty, so `"0"` itself is never in the set. Every change either
gives a new state or is refused, and a refused change leaves the criterion as it was.
-/

namespace Criteria

/-- A criterion that holds one value. -/
structure Exclusive where
  /-- The definition of the criterion. -/
  definition : Definition
  /-- The value held. -/
  current : String
  deriving DecidableEq

/-- A criterion that holds a set of values. -/
structure Inclusive where
  /-- The definition of the criterion. -/
  definition : Definition
  /-- The values held. -/
  held : Std.ExtTreeSet String
  deriving DecidableEq

/-- A criterion of either kind. -/
inductive Criterion where
  | exclusive (criterion : Exclusive)
  | inclusive (criterion : Inclusive)
  deriving DecidableEq

/-- Refuse a value. -/
def Definition.reject {α : Type} (definition : Definition) (value : String) : Traced α := do
  Traced.emit (.valueRejected definition.name value)
  Traced.fail (.invalidValue definition.name value)

namespace Exclusive

/-- Hold another value, or `"0"` for none. -/
def set (criterion : Exclusive) (value : String) : Traced Exclusive :=
  if value = noValue ∨ criterion.definition.allows value then
    return { criterion with current := value }
  else criterion.definition.reject value

/-- Hold the value that a text gives, without the white space around it. -/
def applyRaw (criterion : Exclusive) (raw : String) : Traced Exclusive :=
  criterion.set (Text.trim raw)

/-- Hold nothing. -/
def reset (criterion : Exclusive) : Exclusive :=
  { criterion with current := noValue }

end Exclusive

namespace Inclusive

/-- Hold nothing. -/
def reset (criterion : Inclusive) : Inclusive :=
  { criterion with held := ∅ }

/-- Tell whether a value is shown: `"0"` is while nothing is held. -/
def contains (criterion : Inclusive) (value : String) : Bool :=
  if value = noValue then criterion.held.isEmpty else criterion.held.contains value

/-- Hold one more value. Adding `"0"` resets the criterion. -/
def add (criterion : Inclusive) (value : String) : Traced Inclusive :=
  if value = noValue then return criterion.reset
  else if criterion.definition.allows value then
    return { criterion with held := criterion.held.insert value }
  else criterion.definition.reject value

/-- Hold a value no longer. Removing `"0"` is allowed while nothing is held. -/
def remove (criterion : Inclusive) (value : String) : Traced Inclusive :=
  if value = noValue ∧ criterion.held.isEmpty then return criterion
  else if criterion.held.contains value then
    return { criterion with held := criterion.held.erase value }
  else Traced.fail (.notSet criterion.definition.name value)

/-- Hold the words of a text as well. If `"0"` is among them the criterion is reset, whatever the
others are; otherwise every word must be allowed, or none is added. -/
def applyRaw (criterion : Inclusive) (raw : String) : Traced Inclusive :=
  let words := Text.words raw
  if words.isEmpty then criterion.definition.reject raw
  else if words.contains noValue then return criterion.reset
  else
    match words.find? fun word => !criterion.definition.allows word with
    | some word => criterion.definition.reject word
    | none => return { criterion with held := criterion.held.insertMany words }

end Inclusive

/-- A criterion that holds nothing. -/
def Definition.fresh (definition : Definition) : Criterion :=
  match definition.kind with
  | .exclusive => .exclusive ⟨definition, noValue⟩
  | .inclusive => .inclusive ⟨definition, ∅⟩

namespace Criterion

/-- The definition of a criterion. -/
def definition : Criterion → Definition
  | .exclusive criterion => criterion.definition
  | .inclusive criterion => criterion.definition

/-- The name of a criterion. -/
def name (criterion : Criterion) : String := criterion.definition.name

/-- The kind of a criterion. -/
def kind (criterion : Criterion) : Kind := criterion.definition.kind

/-- The values shown: those held, in the order of their declaration, or `"0"` if there are none. -/
def values : Criterion → List String
  | .exclusive criterion => [criterion.current]
  | .inclusive criterion =>
    if criterion.held.isEmpty then [noValue]
    else criterion.definition.allowed.filter criterion.held.contains

/-- Tell whether nothing is set. -/
def isUnset : Criterion → Bool
  | .exclusive criterion => criterion.current = noValue
  | .inclusive criterion => criterion.held.isEmpty

/-- Hold nothing. -/
def reset : Criterion → Criterion
  | .exclusive criterion => .exclusive criterion.reset
  | .inclusive criterion => .inclusive criterion.reset

/-- Change a criterion as a text says. -/
def applyRaw (criterion : Criterion) (raw : String) : Traced Criterion :=
  match criterion with
  | .exclusive criterion => .exclusive <$> criterion.applyRaw raw
  | .inclusive criterion => .inclusive <$> criterion.applyRaw raw

/-- A change of a criterion. -/
inductive Change where
  /-- Change the criterion as a text says. -/
  | raw (text : String)
  /-- Hold nothing. -/
  | reset
  /-- Hold this value only; for exclusive criteria. -/
  | set (value : String)
  /-- Hold one more value; for inclusive criteria. -/
  | add (value : String)
  /-- Hold a value no longer; for inclusive criteria. -/
  | remove (value : String)
  deriving DecidableEq, Repr

/-- Make a change, if the kind of the criterion offers it. -/
def change? (criterion : Criterion) (change : Change) : Option (Traced Criterion) :=
  match change, criterion with
  | .raw text, criterion => some (criterion.applyRaw text)
  | .reset, criterion => some (pure criterion.reset)
  | .set value, .exclusive criterion => some (.exclusive <$> criterion.set value)
  | .add value, .inclusive criterion => some (.inclusive <$> criterion.add value)
  | .remove value, .inclusive criterion => some (.inclusive <$> criterion.remove value)
  | _, _ => none

/-- The state after a change. A change that is refused or not offered changes nothing. -/
def after (criterion : Criterion) (change : Change) : Criterion :=
  match (criterion.change? change).map Traced.outcome with
  | some (.ok changed) => changed
  | _ => criterion

/-- The state after some changes, made in order. -/
def afterAll (criterion : Criterion) (changes : List Change) : Criterion :=
  changes.foldl after criterion

end Criterion

end Criteria
