import Criteria.EffectiveState
import Criteria.Proofs.Generation
import Criteria.Proofs.Rendering

/-!
# Deltas compose

What a vector of a registry does to the effective state can be read off name by name: a registered
name under which something is asked gets the values asked for, and every other name keeps its
values. So two deltas in a row do what the delta of the merged overrides does, where the later one
wins; deltas that have no registered name in common may change places; and the baseline makes all
that came before it irrelevant.
-/

namespace Criteria

/-- A registry generates a vector from some overrides, or as its baseline. -/
def Registry.Generates (registry : Registry) (vector : TestVector) : Prop :=
  ∃ name testType overrides, (registry.vector name testType overrides).outcome = .ok vector

namespace Registry

variable {registry : Registry} {vectorName testType : String} {overrides : Option Overrides}
  {vector : TestVector}

/-- A vector is generated exactly when every text is admitted, and holds the criteria asked for. -/
theorem outcome_vector_eq_ok_iff :
    (registry.vector vectorName testType overrides).outcome = .ok vector ↔
      Admissible registry.definitions.toList (requested overrides) ∧
        vector = ⟨vectorName, testType,
          chosen registry.definitions.toList (requested overrides)⟩ := by
  rw [Registry.vector, Traced.outcome_bind_eq_ok_iff]
  simp only [outcome_generateCriteria_eq_ok_iff, Traced.outcome_pure, Except.ok.injEq]
  constructor
  · rintro ⟨criteria, ⟨hadmissible, rfl⟩, rfl⟩
    exact ⟨hadmissible, rfl⟩
  · rintro ⟨hadmissible, rfl⟩
    exact ⟨_, ⟨hadmissible, rfl⟩, rfl⟩

/-- A criterion of some name is among those asked for exactly when it is the one of the definition
registered under the name. -/
theorem mem_chosen_iff {request : String → Option String} {name : String} {criterion : Criterion} :
    criterion ∈ chosen registry.definitions.toList request ∧ criterion.name = name ↔
      ((registry.find? name).bind fun definition => (request name).map definition.holding) =
        some criterion := by
  simp only [chosen, List.mem_filterMap, Array.mem_toList_iff, Option.bind_eq_some_iff,
    Option.map_eq_some_iff, find?_eq_some_iff]
  constructor
  · rintro ⟨⟨definition, hmem, raw, hraw, rfl⟩, rfl⟩
    rw [Criterion.name, definition.definition_holding]
    exact ⟨definition, ⟨hmem, rfl⟩, raw, hraw, rfl⟩
  · rintro ⟨definition, ⟨hmem, rfl⟩, raw, hraw, rfl⟩
    refine ⟨⟨definition, hmem, raw, hraw, rfl⟩, ?_⟩
    rw [Criterion.name, definition.definition_holding]

/-- No name has two criteria among those asked for, so the last one of a name is the one of the
definition registered under it. -/
theorem find?_reverse_chosen (request : String → Option String) (name : String) :
    ((chosen registry.definitions.toList request).reverse.find? fun criterion =>
        criterion.name = name) =
      (registry.find? name).bind fun definition => (request name).map definition.holding := by
  cases hlast : (chosen registry.definitions.toList request).reverse.find? fun criterion =>
      criterion.name = name with
  | some criterion =>
    exact (mem_chosen_iff.mp (Criterion.of_find?_reverse hlast)).symm
  | none =>
    rw [eq_comm, Option.eq_none_iff_forall_ne_some]
    intro criterion hasked
    obtain ⟨hmem, hname⟩ := mem_chosen_iff.mpr hasked
    have hother := List.find?_eq_none.mp hlast criterion (List.mem_reverse.mpr hmem)
    exact hother (decide_eq_true hname)

/-- A vector of a registry gives each registered name under which something is asked the values
asked for, and leaves every other name alone. -/
theorem find?_apply_vector
    (h : (registry.vector vectorName testType overrides).outcome = .ok vector)
    (state : EffectiveState) (name : String) :
    (state.apply vector).find? name =
      ((registry.find? name).bind fun definition =>
        (requested overrides name).map definition.asked).or (state.find? name) := by
  obtain ⟨hadmissible, rfl⟩ := outcome_vector_eq_ok_iff.mp h
  rw [state.find?_apply, find?_reverse_chosen]
  cases hfind : registry.find? name with
  | none => rfl
  | some definition =>
    obtain ⟨hmem, rfl⟩ := find?_eq_some_iff.mp hfind
    cases hraw : requested overrides definition.name with
    | none => rfl
    | some raw =>
      have hadmits := hadmissible definition (Array.mem_toList_iff.mpr hmem) raw hraw
      simp only [Option.bind_some, Option.map_some, hadmits.values_holding]

/-- A generated vector is drawn from the registry. -/
theorem Generates.drawnFrom (h : registry.Generates vector) : vector.DrawnFrom registry := by
  obtain ⟨name, testType, overrides, h⟩ := h
  obtain ⟨hadmissible, rfl⟩ := outcome_vector_eq_ok_iff.mp h
  intro criterion hcriterion
  obtain ⟨definition, hmem, hasked⟩ := List.mem_filterMap.mp hcriterion
  obtain ⟨raw, hraw, rfl⟩ := Option.map_eq_some_iff.mp hasked
  exact ⟨definition, Array.mem_toList_iff.mp hmem,
    (hadmissible definition hmem raw hraw).reaches_holding⟩

/-- A vector drawn from a registry leaves a name alone that is not registered. -/
theorem find?_apply_of_not_registered (h : vector.DrawnFrom registry) {name : String}
    (hname : registry.find? name = none) (state : EffectiveState) :
    (state.apply vector).find? name = state.find? name := by
  refine EffectiveState.find?_apply_of_forall_ne (fun criterion hcriterion heq => ?_) state
  obtain ⟨definition, hdefinition, hreaches⟩ := h criterion hcriterion
  rw [Criterion.name, hreaches.definition_eq] at heq
  rw [find?_eq_some_iff.mpr ⟨hdefinition, heq⟩] at hname
  contradiction

/-- The baseline is generated from every registry. -/
theorem exists_baseline (registry : Registry) (name : String) :
    ∃ baseline, (registry.baseline name).outcome = .ok baseline :=
  ⟨_, outcome_vector_eq_ok_iff.mpr ⟨admissible_requested_none _, rfl⟩⟩

/-- What was asked before the baseline makes no difference to the state after it. -/
theorem apply_baseline {name : String} {baseline : TestVector}
    (hbaseline : (registry.baseline name).outcome = .ok baseline)
    (hvector : vector.DrawnFrom registry) (state : EffectiveState) :
    (state.apply vector).apply baseline = state.apply baseline := by
  apply EffectiveState.ext_find?
  intro other
  rw [find?_apply_vector hbaseline, find?_apply_vector hbaseline]
  cases hfind : registry.find? other with
  | some definition => rfl
  | none => rw [Option.bind_none, Option.none_or, find?_apply_of_not_registered hvector hfind,
      Option.none_or]

end Registry

/-! ## Two deltas -/

/-- Under a name the merged overrides ask for what the later ones do, and else for what the earlier
ones do. -/
theorem requested_union (first second : Overrides) (name : String) :
    requested (some (first ∪ second)) name =
      (requested (some second) name).or (requested (some first) name) :=
  Std.ExtTreeMap.getElem?_union

/-- What merged overrides ask for is admitted if what either asks for is. -/
theorem Admissible.union {definitions : List Definition} {first second : Overrides}
    (hfirst : Admissible definitions (requested (some first)))
    (hsecond : Admissible definitions (requested (some second))) :
    Admissible definitions (requested (some (first ∪ second))) := by
  intro definition hmem raw hraw
  rw [requested_union, Option.or_eq_some_iff] at hraw
  rcases hraw with hraw | ⟨-, hraw⟩
  · exact hsecond definition hmem raw hraw
  · exact hfirst definition hmem raw hraw

namespace Registry

variable {registry : Registry} {first second : Overrides} {a b : TestVector}
  {aName aType bName bType : String}

/-- Two deltas in a row do what the delta of the merged overrides does. -/
theorem apply_union {merged : TestVector} {name testType : String}
    (ha : (registry.vector aName aType (some first)).outcome = .ok a)
    (hb : (registry.vector bName bType (some second)).outcome = .ok b)
    (hmerged : (registry.vector name testType (some (first ∪ second))).outcome = .ok merged)
    (state : EffectiveState) : (state.apply a).apply b = state.apply merged := by
  apply EffectiveState.ext_find?
  intro other
  rw [find?_apply_vector hb, find?_apply_vector ha, find?_apply_vector hmerged, requested_union]
  cases registry.find? other with
  | none => rfl
  | some definition => cases requested (some second) other <;> rfl

/-- Deltas without a registered name in common may change places. -/
theorem apply_comm (ha : (registry.vector aName aType (some first)).outcome = .ok a)
    (hb : (registry.vector bName bType (some second)).outcome = .ok b)
    (hdisjoint : ∀ name ∈ registry.names, name ∈ first → name ∉ second) (state : EffectiveState) :
    (state.apply a).apply b = (state.apply b).apply a := by
  apply EffectiveState.ext_find?
  intro other
  rw [find?_apply_vector hb, find?_apply_vector ha, find?_apply_vector ha, find?_apply_vector hb]
  cases hfind : registry.find? other with
  | none => rfl
  | some definition =>
    have hnot := hdisjoint other (mem_names_iff.mpr ⟨definition, hfind⟩)
    rw [Std.ExtTreeMap.mem_iff_isSome_getElem?, Std.ExtTreeMap.mem_iff_isSome_getElem?] at hnot
    simp only [requested, Option.bind_some]
    cases hfirst : first[other]? with
    | none => cases second[other]? <;> rfl
    | some raw =>
      cases hsecond : second[other]? with
      | none => rfl
      | some later => exact absurd (by simp [hsecond]) (hnot (by simp [hfirst]))

/-- If a registry generates the deltas of two overrides, it also generates the delta of the merged
ones, in which the later ones win, and that delta leaves the state that the two leave in a row. If
the overrides have no registered name in common, the two deltas may change places. The baseline is
always generated, and behind it the state does not depend on the vector of the registry before
it. -/
theorem deltas_compose (ha : (registry.vector aName aType (some first)).outcome = .ok a)
    (hb : (registry.vector bName bType (some second)).outcome = .ok b) (name testType : String)
    (state : EffectiveState) :
    (∃ merged, (registry.vector name testType (some (first ∪ second))).outcome = .ok merged ∧
      (state.apply a).apply b = state.apply merged) ∧
    ((∀ name ∈ registry.names, name ∈ first → name ∉ second) →
      (state.apply a).apply b = (state.apply b).apply a) ∧
    ∃ baseline, (registry.baseline name).outcome = .ok baseline ∧
      ∀ vector, registry.Generates vector ∨ vector.DrawnFrom registry →
        (state.apply vector).apply baseline = state.apply baseline := by
  have hadmissible := (outcome_vector_eq_ok_iff.mp ha).1.union (outcome_vector_eq_ok_iff.mp hb).1
  have hmerged : (registry.vector name testType (some (first ∪ second))).outcome = .ok _ :=
    outcome_vector_eq_ok_iff.mpr ⟨hadmissible, rfl⟩
  obtain ⟨baseline, hbaseline⟩ := registry.exists_baseline name
  refine ⟨⟨_, hmerged, apply_union ha hb hmerged state⟩, fun h => apply_comm ha hb h state,
    baseline, hbaseline, ?_⟩
  rintro vector (hgenerated | hdrawn)
  · exact apply_baseline hbaseline hgenerated.drawnFrom state
  · exact apply_baseline hbaseline hdrawn state

/-- Two deltas compose over a registry in which a name was defined again, although they share an
override that no definition has. -/
theorem deltas_compose_after_redefinition :
    let colors : Definition := ⟨.inclusive, "Colors", ["red", "0", "green", "red"]⟩
    let mood : Definition := ⟨.exclusive, "Mood", ["mad", "sad"]⟩
    let registry := [⟨.inclusive, "Mood", ["x"]⟩, colors, mood].foldl Registry.insert .empty
    let first : Overrides := .ofList [("Mood", " sad "), ("Ghost", "boo")]
    let second : Overrides := .ofList [("Colors", "green red"), ("Ghost", "hoo")]
    let a : TestVector := ⟨"a", "nominal", [mood.fresh.afterAll [.set "sad"]]⟩
    let b : TestVector := ⟨"b", "burst", [colors.fresh.afterAll [.raw "green red"]]⟩
    let state := EffectiveState.empty.assign "Colors" ["green"]
    (registry.vector "a" "nominal" (some first)).outcome = .ok a ∧
      (registry.vector "b" "burst" (some second)).outcome = .ok b ∧
      (∃ merged, (registry.vector "ab" "nominal" (some (first ∪ second))).outcome = .ok merged ∧
        (state.apply a).apply b = state.apply merged) ∧
      (state.apply a).apply b = (state.apply b).apply a ∧
      ∃ baseline, (registry.baseline "ab").outcome = .ok baseline ∧
        (state.apply a).apply baseline = state.apply baseline := by
  intro colors mood registry first second a b state
  have ha : (registry.vector "a" "nominal" (some first)).outcome = .ok a := by decide +kernel
  have hb : (registry.vector "b" "burst" (some second)).outcome = .ok b := by decide +kernel
  have hdisjoint : ∀ name ∈ registry.names, name ∈ first → name ∉ second := by decide +kernel
  obtain ⟨hmerged, hswap, baseline, hbaseline, hreset⟩ :=
    deltas_compose ha hb "ab" "nominal" state
  exact ⟨ha, hb, hmerged, hswap hdisjoint, baseline, hbaseline, hreset a (.inl ⟨_, _, _, ha⟩)⟩

end Registry

end Criteria
