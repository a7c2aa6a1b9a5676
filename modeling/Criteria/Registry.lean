import Criteria.Definition.Reader
import Std.Data.ExtTreeMap.Lemmas

/-!
# The registry

The registry keeps one definition for each name. A definition registered under a new name goes to
the end; one registered under a name that is taken goes where the earlier one stood. An index leads
from the names to the positions, and it is part of the type that the index is right: a name leads to
a position exactly when the definition there has that name. So no two definitions share a name and
no position leads nowhere.
-/

namespace Criteria

/-- Definitions in the order in which their names were first registered. -/
structure Registry where
  /-- The definitions. -/
  definitions : Array Definition
  /-- The position of each name. -/
  index : Std.ExtTreeMap String Nat
  /-- A name leads to a position exactly when the definition there has the name. -/
  index_eq_some_iff : ∀ name position,
    index[name]? = some position ↔ definitions[position]?.map Definition.name = some name

namespace Registry

/-- The registry without definitions. -/
def empty : Registry where
  definitions := #[]
  index := ∅
  index_eq_some_iff := by simp

instance : Inhabited Registry := ⟨empty⟩

/-- A position found in the index is one of a definition. -/
theorem lt_size_of_index (registry : Registry) {name : String} {position : Nat}
    (h : registry.index[name]? = some position) : position < registry.definitions.size := by
  rw [registry.index_eq_some_iff, Option.map_eq_some_iff] at h
  obtain ⟨_, h, _⟩ := h
  exact (Array.getElem?_eq_some_iff.mp h).1

/-- The definition registered under a name. -/
def find? (registry : Registry) (name : String) : Option Definition :=
  match h : registry.index[name]? with
  | some position =>
    have := registry.lt_size_of_index h
    some registry.definitions[position]
  | none => none

/-- Tell whether a name is taken. -/
def contains (registry : Registry) (name : String) : Bool :=
  registry.index.contains name

/-- The names, in the order in which they were first registered. -/
def names (registry : Registry) : List String :=
  registry.definitions.toList.map Definition.name

/-- The number of names. -/
def size (registry : Registry) : Nat := registry.definitions.size

/-- The definition found under a name has that name. -/
theorem name_of_find? {registry : Registry} {name : String} {definition : Definition}
    (h : registry.find? name = some definition) : definition.name = name := by
  unfold find? at h
  split at h
  · next position hindex =>
    have hname := (registry.index_eq_some_iff name position).mp hindex
    simpa [Array.getElem?_eq_getElem (registry.lt_size_of_index hindex), Option.some.inj h]
      using hname
  · contradiction

/-- A name is taken exactly when a definition is found under it. -/
theorem isSome_find? (registry : Registry) (name : String) :
    (registry.find? name).isSome = registry.contains name := by
  rw [contains, Std.ExtTreeMap.contains_eq_isSome_getElem?]
  unfold find?
  split <;> simp_all

/-- Put a definition where another one of the same name stands. -/
def replace (registry : Registry) (definition : Definition) (position : Nat)
    (h : registry.index[definition.name]? = some position) : Registry where
  definitions := registry.definitions.set position definition (registry.lt_size_of_index h)
  index := registry.index
  index_eq_some_iff := by
    intro name other
    rw [registry.index_eq_some_iff, Array.getElem?_set]
    rw [registry.index_eq_some_iff] at h
    split
    · next heq =>
      subst heq
      rw [h]
      simp
    · rfl

/-- Put a definition behind the others. -/
def append (registry : Registry) (definition : Definition)
    (h : registry.index[definition.name]? = none) : Registry where
  definitions := registry.definitions.push definition
  index := registry.index.insert definition.name registry.definitions.size
  index_eq_some_iff := by
    intro name position
    have hindex := registry.index_eq_some_iff
    rw [Std.ExtTreeMap.getElem?_insert, Array.getElem?_push]
    by_cases hname : definition.name = name
    · subst hname
      by_cases hposition : position = registry.definitions.size
      · simp [hposition]
      · have := (not_congr (hindex definition.name position)).mp (by simp [h])
        simp [hposition, this, eq_comm]
    · have hcompare : ¬compare definition.name name = .eq := by simpa using hname
      by_cases hposition : position = registry.definitions.size
      · have := (not_congr (hindex name position)).mpr (by simp [hposition])
        simp [hposition, hcompare, hname]
        simpa [hposition] using this
      · simp [hposition, hcompare, hindex]

/-- Put a definition into the registry. -/
def insert (registry : Registry) (definition : Definition) : Registry :=
  match h : registry.index[definition.name]? with
  | some position => registry.replace definition position h
  | none => registry.append definition h

/-- Put a definition into the registry and report it. -/
def register (registry : Registry) (definition : Definition) : Traced Registry := do
  Traced.emit
    (if registry.contains definition.name then .replaced definition.name definition.kind
    else .registered definition.name definition.kind)
  return registry.insert definition

/-- Register definitions in order. -/
def registerAll (registry : Registry) (definitions : List Definition) : Traced Registry :=
  definitions.foldlM register registry

/-- Read the definitions of a text into a new registry. -/
def ofText (text : String) : Traced Registry := do
  empty.registerAll (← Definition.load text)

end Registry

end Criteria
