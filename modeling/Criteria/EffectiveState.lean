import Criteria.TestVector
import Std.Data.ExtTreeMap.Lemmas

/-!
# The effective state

The values that a daemon holds after some vectors. A criterion that a vector does not hold keeps the
values it had before.
-/

namespace Criteria

/-- The values of the criteria set so far, by name. -/
structure EffectiveState where
  /-- The values. -/
  values : Std.ExtTreeMap String (List String)
  deriving DecidableEq

/-- The last criterion of a name among some criteria is one of them and has the name. -/
theorem Criterion.of_find?_reverse {criteria : List Criterion} {name : String}
    {criterion : Criterion}
    (h : (criteria.reverse.find? fun criterion => criterion.name = name) = some criterion) :
    criterion ∈ criteria ∧ criterion.name = name := by
  have hname := List.find?_some h
  exact ⟨List.mem_reverse.mp (List.mem_of_find?_eq_some h), of_decide_eq_true hname⟩

namespace EffectiveState

/-- Nothing has been set. -/
def empty : EffectiveState := ⟨∅⟩

/-- Give a criterion values. -/
def assign (state : EffectiveState) (name : String) (values : List String) : EffectiveState :=
  ⟨state.values.insert name values⟩

/-- The values last set for a name. -/
def find? (state : EffectiveState) (name : String) : Option (List String) := state.values[name]?

/-- The number of criteria set. -/
def size (state : EffectiveState) : Nat := state.values.size

/-- The state after a vector. -/
def apply (state : EffectiveState) (vector : TestVector) : EffectiveState :=
  vector.criteria.foldl (fun state criterion => state.assign criterion.name criterion.values) state

/-- The state after some vectors, in order. -/
def applyAll (state : EffectiveState) (vectors : List TestVector) : EffectiveState :=
  vectors.foldl apply state

/-- The states after the first, the first two and so on of some vectors. -/
def history (state : EffectiveState) : List TestVector → List EffectiveState
  | [] => []
  | vector :: rest =>
    let next := state.apply vector
    next :: next.history rest

/-- An assignment changes the values of its own name and of no other. -/
theorem find?_assign (state : EffectiveState) (name other : String) (values : List String) :
    (state.assign name values).find? other =
      if name = other then some values else state.find? other := by
  simp [assign, find?, Std.ExtTreeMap.getElem?_insert]

/-- States that hold the same values under every name are one state. -/
theorem ext_find? {first second : EffectiveState}
    (h : ∀ name, first.find? name = second.find? name) : first = second := by
  obtain ⟨values⟩ := first
  obtain ⟨others⟩ := second
  exact congrArg mk (Std.ExtTreeMap.ext_getElem? h)

/-- Under each name a vector leaves what its last criterion of that name shows, and the values held
before if it has no such criterion. -/
theorem find?_apply (state : EffectiveState) (vector : TestVector) (name : String) :
    (state.apply vector).find? name =
      ((vector.criteria.reverse.find? fun criterion => criterion.name = name).map
        Criterion.values).or (state.find? name) := by
  obtain ⟨vectorName, testType, criteria⟩ := vector
  induction criteria generalizing state with
  | nil => rfl
  | cons criterion rest ih =>
    refine (ih (state.assign criterion.name criterion.values)).trans ?_
    rw [find?_assign, List.reverse_cons, List.find?_append]
    cases rest.reverse.find? fun criterion => criterion.name = name with
    | some last => rfl
    | none => by_cases hname : criterion.name = name <;> simp [hname]

/-- A vector leaves a name alone that none of its criteria has. -/
theorem find?_apply_of_forall_ne {vector : TestVector} {name : String}
    (h : ∀ criterion ∈ vector.criteria, criterion.name ≠ name) (state : EffectiveState) :
    (state.apply vector).find? name = state.find? name := by
  have hnone : (vector.criteria.reverse.find? fun criterion => criterion.name = name) = none := by
    simpa using h
  rw [find?_apply, hnone, Option.map_none, Option.none_or]

end EffectiveState

end Criteria
