import Criteria.Registry
import Criteria.TestVector

/-!
# Generating vectors

A vector is generated from definitions, in their order. Without overrides it is the baseline, which
resets every criterion. With overrides it is a delta: it holds the criteria that the overrides name,
each changed from its fresh state as its text says, and no others. An override that names no
criterion is reported and otherwise ignored. The first text that is refused stops the generation.
-/

namespace Criteria

/-- Texts for criteria, by name. -/
abbrev Overrides := Std.ExtTreeMap String String

/-- The criteria of the baseline: every one, reset. -/
def baselineCriteria (definitions : List Definition) : List Criterion :=
  definitions.map fun definition => definition.fresh.reset

/-- The names among the overrides that belong to no definition, in order. -/
def unknownNames (definitions : List Definition) (overrides : Overrides) : List String :=
  overrides.keys.filter fun name => !definitions.any fun definition => definition.name = name

/-- The criteria that the overrides name, changed as their texts say. -/
def deltaCriteria (overrides : Overrides) : List Definition → Traced (List Criterion)
  | [] => return []
  | definition :: rest =>
    match overrides[definition.name]? with
    | none => deltaCriteria overrides rest
    | some raw => do
      let criterion ← definition.fresh.applyRaw raw
      let criteria ← deltaCriteria overrides rest
      return criterion :: criteria

/-- Generate the criteria of a vector. -/
def generateCriteria (definitions : List Definition) :
    Option Overrides → Traced (List Criterion)
  | none => do
    let criteria := baselineCriteria definitions
    Traced.emit (.vectorGenerated criteria.length true)
    return criteria
  | some overrides => do
    Traced.emitAll ((unknownNames definitions overrides).map .unknownOverride)
    let criteria ← deltaCriteria overrides definitions
    Traced.emit (.vectorGenerated criteria.length false)
    return criteria

namespace Registry

/-- Generate a vector from the definitions of a registry. -/
def vector (registry : Registry) (name testType : String) (overrides : Option Overrides) :
    Traced TestVector := do
  return ⟨name, testType, ← generateCriteria registry.definitions.toList overrides⟩

/-- Generate the baseline of a registry. -/
def baseline (registry : Registry) (name : String) : Traced TestVector :=
  registry.vector name defaultTestType none

end Registry

end Criteria
