import Criteria.Proofs.Deltas
import Criteria.Proofs.Observation

/-!
# What is shown can be asked for again

The values that a criterion shows, with a space between them, are a text that asks a fresh criterion
for the same values. The values of a definition file are words and so is `"0"`, therefore the text
falls back into the values, and no two values are taken for one. An inclusive criterion never shows
`"0"` beside another value, so the text resets the criterion only if nothing was set. The order in
which values were added does not matter, for they are held as a set and shown in the order of their
declaration.

It follows that a generated vector and the state behind any vectors can be restored from what they
show, by the delta that overrides each name with the text of its values.
-/

namespace Criteria

open Text

/-- The text that asks for the values a criterion shows. -/
def Criterion.snapshot (criterion : Criterion) : String := " ".intercalate criterion.values

/-- The overrides that ask for what the criteria of a vector show. -/
def TestVector.snapshot (vector : TestVector) : Overrides :=
  .ofList (vector.criteria.map fun criterion => (criterion.name, criterion.snapshot))

/-- The overrides that ask for the values of a state. -/
def EffectiveState.snapshot (state : EffectiveState) : Overrides :=
  state.values.map fun _ values => " ".intercalate values

/-! ## One criterion -/

namespace Definition

variable {definition : Definition} {criterion : Criterion}

/-- The words of the text of a criterion are the values it shows. -/
theorem Reaches.words_snapshot (h : definition.Reaches criterion) (hclean : definition.Clean) :
    words criterion.snapshot = criterion.values :=
  words_intercalate (h.plain hclean).value

/-- The text of an exclusive criterion is its value, with no white space around it. -/
theorem Reaches.trim_snapshot {state : Exclusive} (h : definition.Reaches (.exclusive state))
    (hclean : definition.Clean) : trim (Criterion.exclusive state).snapshot = state.current := by
  have hsnapshot : (Criterion.exclusive state).snapshot = state.current := by
    simp [Criterion.snapshot, Criterion.values]
  rw [hsnapshot]
  exact trim_eq_self ((h.plain hclean).value _ List.mem_cons_self)

/-- The definition of a criterion admits the text of the values it shows. -/
theorem Reaches.admits_snapshot (h : definition.Reaches criterion) (hclean : definition.Clean) :
    definition.Admits criterion.snapshot := by
  rcases h.exclusive_or_inclusive with ⟨current, rfl, hkind, hcurrent⟩ | ⟨held, rfl, hkind, hvalid⟩
  · rw [admits_iff_of_exclusive hkind, h.trim_snapshot hclean]
    exact hcurrent
  · rw [admits_iff_of_inclusive hkind, h.words_snapshot hclean]
    refine ⟨hvalid.values_ne_nil, ?_⟩
    by_cases hunset : (Criterion.inclusive ⟨definition, held⟩).isUnset
    · rw [hvalid.isUnset_iff.mp hunset]
      exact .inl (List.mem_singleton_self noValue)
    · exact .inr fun value hvalue => (hvalid value ((hvalid.mem_values_iff hunset).mp hvalue)).2

/-- The text of the values that a criterion shows asks for that criterion. -/
theorem Reaches.holding_snapshot (h : definition.Reaches criterion) (hclean : definition.Clean) :
    definition.holding criterion.snapshot = criterion := by
  rcases h.exclusive_or_inclusive with ⟨current, rfl, hkind, -⟩ | ⟨held, rfl, hkind, hvalid⟩
  · rw [holding_of_exclusive hkind, h.trim_snapshot hclean]
  · rw [holding_of_inclusive hkind, h.words_snapshot hclean]
    by_cases hunset : (Criterion.inclusive ⟨definition, held⟩).isUnset
    · have hempty : held = ∅ := Std.ExtTreeSet.isEmpty_iff.mp hunset
      rw [hvalid.isUnset_iff.mp hunset, if_pos (List.mem_singleton_self noValue), hempty]
    · have hzero := mt (hvalid.mem_values_iff hunset).mp hvalid.noValue_not_mem
      have hheld : (∅ : Std.ExtTreeSet String).insertMany
          (Criterion.inclusive ⟨definition, held⟩).values = held :=
        Std.ExtTreeSet.ext_mem fun value =>
          mem_insertMany_words.trans (hvalid.mem_values_iff hunset)
      rw [if_neg hzero, hheld]

/-- A fresh criterion is changed into a criterion by the text of the values that one shows. -/
theorem Reaches.outcome_applyRaw_snapshot (h : definition.Reaches criterion)
    (hclean : definition.Clean) :
    (definition.fresh.applyRaw criterion.snapshot).outcome = .ok criterion :=
  outcome_applyRaw_eq_ok_iff.mpr ⟨h.admits_snapshot hclean, (h.holding_snapshot hclean).symm⟩

/-- The text of the values that an admitted text asks for asks for the same. -/
theorem Admits.holding_asked {raw : String} (h : definition.Admits raw)
    (hclean : definition.Clean) :
    definition.holding (" ".intercalate (definition.asked raw)) = definition.holding raw := by
  rw [← h.values_holding]
  exact h.reaches_holding.holding_snapshot hclean

end Definition

/-! ## States and vectors -/

namespace EffectiveState

/-- What is asked for under a name is the text of the values held. -/
theorem requested_snapshot (state : EffectiveState) (name : String) :
    requested (some state.snapshot) name = (state.find? name).map " ".intercalate :=
  Std.ExtTreeMap.getElem?_map

/-- An assignment overrides the name it assigns to. -/
theorem snapshot_assign (state : EffectiveState) (name : String) (values : List String) :
    (state.assign name values).snapshot = state.snapshot.insert name (" ".intercalate values) := by
  apply Std.ExtTreeMap.ext_getElem?
  intro other
  simp only [snapshot, assign, Std.ExtTreeMap.getElem?_map, Std.ExtTreeMap.getElem?_insert]
  split <;> rfl

/-- A vector overrides the names of its criteria. -/
theorem snapshot_apply (state : EffectiveState) (vector : TestVector) :
    (state.apply vector).snapshot = state.snapshot.insertMany
      (vector.criteria.map fun criterion => (criterion.name, criterion.snapshot)) := by
  obtain ⟨vectorName, testType, criteria⟩ := vector
  induction criteria generalizing state with
  | nil => exact Std.ExtTreeMap.insertMany_nil.symm
  | cons criterion rest ih =>
    refine (ih (state.assign criterion.name criterion.values)).trans ?_
    rw [snapshot_assign, List.map_cons, Std.ExtTreeMap.insertMany_cons]
    rfl

end EffectiveState

/-- A vector asks for what it leaves if nothing was set before. -/
theorem TestVector.snapshot_eq (vector : TestVector) :
    vector.snapshot = (EffectiveState.empty.apply vector).snapshot := by
  have hempty : EffectiveState.empty.snapshot = ∅ :=
    Std.ExtTreeMap.ext_getElem? fun _ => Std.ExtTreeMap.getElem?_map
  rw [EffectiveState.snapshot_apply, hempty, snapshot, Std.ExtTreeMap.ofList_eq_insertMany_empty]

/-- The values of a state belong to definitions of a registry and were reached by changes. -/
def EffectiveState.DrawnFrom (state : EffectiveState) (registry : Registry) : Prop :=
  ∀ name values, state.find? name = some values → ∃ definition criterion,
    registry.find? name = some definition ∧ definition.Reaches criterion ∧
      criterion.values = values

namespace EffectiveState

variable {registry : Registry} {state : EffectiveState}

/-- While nothing is set, no values belong to anything else. -/
theorem drawnFrom_empty (registry : Registry) : empty.DrawnFrom registry := by
  intro name values h
  rw [empty, find?, Std.ExtTreeMap.getElem?_empty] at h
  contradiction

/-- A vector drawn from the registry gives values that belong to its definitions. -/
theorem DrawnFrom.apply (h : state.DrawnFrom registry) {vector : TestVector}
    (hvector : vector.DrawnFrom registry) : (state.apply vector).DrawnFrom registry := by
  intro name values hvalues
  rw [find?_apply, Option.or_eq_some_iff, Option.map_eq_some_iff] at hvalues
  rcases hvalues with ⟨criterion, hlast, rfl⟩ | ⟨-, hbefore⟩
  · obtain ⟨hmem, rfl⟩ := Criterion.of_find?_reverse hlast
    obtain ⟨definition, hdefinition, hreaches⟩ := hvector criterion hmem
    refine ⟨definition, criterion, ?_, hreaches, rfl⟩
    rw [Criterion.name, hreaches.definition_eq]
    exact Registry.find?_eq_some_iff.mpr ⟨hdefinition, rfl⟩
  · exact h name values hbefore

/-- Any vectors drawn from the registry give values that belong to its definitions. -/
theorem DrawnFrom.applyAll (h : state.DrawnFrom registry) {vectors : List TestVector}
    (hvectors : ∀ vector ∈ vectors, vector.DrawnFrom registry) :
    (state.applyAll vectors).DrawnFrom registry := by
  induction vectors generalizing state with
  | nil => exact h
  | cons vector rest ih =>
    obtain ⟨hvector, hrest⟩ := List.forall_mem_cons.mp hvectors
    exact ih (h.apply hvector) hrest

/-- The text under a registered name is admitted, and asks for the values held. -/
theorem DrawnFrom.asked_snapshot (h : state.DrawnFrom registry)
    (hclean : ∀ definition ∈ registry.definitions, definition.Clean) {name raw : String}
    {definition : Definition} (hfind : registry.find? name = some definition)
    (hraw : requested (some state.snapshot) name = some raw) :
    definition.Admits raw ∧ state.find? name = some (definition.asked raw) := by
  rw [requested_snapshot, Option.map_eq_some_iff] at hraw
  obtain ⟨values, hvalues, rfl⟩ := hraw
  obtain ⟨found, criterion, hfound, hreaches, rfl⟩ := h name values hvalues
  obtain rfl := Option.some.inj (hfind.symm.trans hfound)
  have hdefinition := hclean definition (Registry.mem_of_find? hfind)
  have hadmits := hreaches.admits_snapshot hdefinition
  refine ⟨hadmits, ?_⟩
  change state.find? name = some (definition.asked criterion.snapshot)
  rw [hvalues, ← hadmits.values_holding, hreaches.holding_snapshot hdefinition]

/-- All that a state drawn from the registry asks for is admitted. -/
theorem DrawnFrom.admissible_snapshot (h : state.DrawnFrom registry)
    (hclean : ∀ definition ∈ registry.definitions, definition.Clean) :
    Admissible registry.definitions.toList (requested (some state.snapshot)) := by
  intro definition hmem raw hraw
  have hfind := Registry.find?_eq_some_iff.mpr ⟨Array.mem_toList_iff.mp hmem, rfl⟩
  exact (h.asked_snapshot hclean hfind hraw).1

end EffectiveState

namespace Registry

variable {registry : Registry}

/-- A state drawn from the registry is restored by the vector that asks for its values. -/
theorem exists_restoring (hclean : ∀ definition ∈ registry.definitions, definition.Clean)
    {state : EffectiveState} (h : state.DrawnFrom registry) (name testType : String) :
    ∃ restoring, (registry.vector name testType (some state.snapshot)).outcome = .ok restoring ∧
      EffectiveState.empty.apply restoring = state := by
  have hrestoring : (registry.vector name testType (some state.snapshot)).outcome = .ok _ :=
    outcome_vector_eq_ok_iff.mpr ⟨h.admissible_snapshot hclean, rfl⟩
  refine ⟨_, hrestoring, EffectiveState.ext_find? fun other => ?_⟩
  rw [find?_apply_vector hrestoring, EffectiveState.requested_snapshot]
  cases hvalues : state.find? other with
  | none => cases registry.find? other <;> rfl
  | some values =>
    obtain ⟨definition, criterion, hfind, -⟩ := h other values hvalues
    have hraw := EffectiveState.requested_snapshot state other
    rw [hvalues, Option.map_some] at hraw
    have hasked := (h.asked_snapshot hclean hfind hraw).2
    rw [hfind, Option.bind_some, Option.map_some, Option.map_some, Option.some_or, ← hasked,
      hvalues]

/-- A generated vector is generated again from what it shows. -/
theorem outcome_vector_snapshot (hclean : ∀ definition ∈ registry.definitions, definition.Clean)
    {vector : TestVector} (h : registry.Generates vector) (name testType : String) :
    (registry.vector name testType (some vector.snapshot)).outcome =
      .ok ⟨name, testType, vector.criteria⟩ := by
  have hdrawn := (EffectiveState.drawnFrom_empty registry).apply h.drawnFrom
  obtain ⟨vectorName, vectorType, overrides, h⟩ := h
  rw [outcome_vector_eq_ok_iff, vector.snapshot_eq]
  refine ⟨hdrawn.admissible_snapshot hclean, ?_⟩
  have heffect := find?_apply_vector h EffectiveState.empty
  obtain ⟨hadmissible, rfl⟩ := outcome_vector_eq_ok_iff.mp h
  congr 1
  refine List.filterMap_congr fun definition hmem => ?_
  have hdefinition := Array.mem_toList_iff.mp hmem
  rw [EffectiveState.requested_snapshot, heffect, find?_eq_some_iff.mpr ⟨hdefinition, rfl⟩]
  cases hraw : requested overrides definition.name with
  | none => rfl
  | some raw =>
    have hadmits := hadmissible definition hmem raw hraw
    exact congrArg some (hadmits.holding_asked (hclean definition hdefinition)).symm

/-- Overrides that ask for the same under every registered name give the same vector. -/
theorem outcome_vector_congr {name testType : String} {vector : TestVector}
    {overrides others : Option Overrides}
    (h : ∀ name ∈ registry.names, requested others name = requested overrides name)
    (hvector : (registry.vector name testType overrides).outcome = .ok vector) :
    (registry.vector name testType others).outcome = .ok vector := by
  have hsame : ∀ definition ∈ registry.definitions.toList,
      requested others definition.name = requested overrides definition.name :=
    fun definition hmem => h _ (List.mem_map_of_mem hmem)
  obtain ⟨hadmissible, rfl⟩ := outcome_vector_eq_ok_iff.mp hvector
  refine outcome_vector_eq_ok_iff.mpr ⟨fun definition hmem raw hraw => ?_, ?_⟩
  · exact hadmissible definition hmem raw (hsame definition hmem ▸ hraw)
  · congr 1
    refine List.filterMap_congr fun definition hmem => ?_
    rw [hsame definition hmem]

/-- What the criteria of a text have come to show can be asked for again. The text of the values
that a criterion shows makes that criterion of a fresh one. A vector that was generated is generated
again from the texts of what its criteria show, with the same criteria in the same order and so with
the same digest; the baseline is also the vector that overrides every name with `"0"`. The state
behind any generated vectors is restored, where nothing was set, by the vector that overrides each
name with the text of its values. -/
theorem snapshots_restore {text : String}
    (hregistry : (ofText text).outcome = .ok registry) :
    (∀ definition ∈ registry.definitions, ∀ criterion, definition.Reaches criterion →
      (definition.fresh.applyRaw criterion.snapshot).outcome = .ok criterion) ∧
    (∀ vector, registry.Generates vector → ∀ name testType, ∃ again,
      (registry.vector name testType (some vector.snapshot)).outcome = .ok again ∧
        again.criteria = vector.criteria ∧ again.assignments = vector.assignments ∧
        again.digest = vector.digest) ∧
    (∀ name, ∃ baseline, (registry.baseline name).outcome = .ok baseline ∧
      ∀ zeros : Overrides, (∀ known ∈ registry.names, zeros[known]? = some noValue) →
        (registry.vector name defaultTestType (some zeros)).outcome = .ok baseline) ∧
    ∀ vectors, (∀ vector ∈ vectors, registry.Generates vector) → ∀ name testType, ∃ restoring,
      (registry.vector name testType
          (some (EffectiveState.empty.applyAll vectors).snapshot)).outcome = .ok restoring ∧
        EffectiveState.empty.apply restoring = EffectiveState.empty.applyAll vectors := by
  have hclean : ∀ definition ∈ registry.definitions, definition.Clean :=
    fun _ => clean_of_ofText hregistry
  refine ⟨?_, ?_, ?_, ?_⟩
  · intro definition hmem criterion hreaches
    exact hreaches.outcome_applyRaw_snapshot (hclean definition hmem)
  · intro vector hgenerated name testType
    exact ⟨_, outcome_vector_snapshot hclean hgenerated name testType, rfl, rfl, rfl⟩
  · intro name
    obtain ⟨baseline, hbaseline⟩ := registry.exists_baseline name
    refine ⟨baseline, hbaseline, fun zeros hzeros => ?_⟩
    have hsame : ∀ known ∈ registry.names,
        requested (some zeros) known = requested none known := hzeros
    exact outcome_vector_congr hsame hbaseline
  · intro vectors hgenerated name testType
    have hdrawn := (EffectiveState.drawnFrom_empty registry).applyAll fun vector hmem =>
      (hgenerated vector hmem).drawnFrom
    exact exists_restoring hclean hdrawn name testType

/-- Snapshots restore also what definitions with `"0"` among their values show, and values that were
added in another order than declared. -/
theorem snapshots_restore_with_zero_allowed :
    let text := "Exclusive Mood : 0 sad\nInclusive Colors : red 0 green\n"
    let mood : Definition := ⟨.exclusive, "Mood", ["0", "sad"]⟩
    let colors : Definition := ⟨.inclusive, "Colors", ["red", "0", "green"]⟩
    let registry := [mood, colors].foldl Registry.insert .empty
    let criterion := colors.fresh.afterAll [.add "green", .remove "0", .add "red", .add "blue"]
    let overrides : Overrides := .ofList [("Colors", "green red"), ("Mood", " sad")]
    let vector : TestVector := ⟨"a", "burst",
      [mood.fresh.afterAll [.set "sad"], colors.fresh.afterAll [.raw "green red"]]⟩
    (ofText text).outcome = .ok registry ∧ criterion.snapshot = "red green" ∧
      (colors.fresh.applyRaw "red green").outcome = .ok criterion ∧
      (registry.vector "a" "burst" (some overrides)).outcome = .ok vector ∧
      vector.snapshot.toList = [("Colors", "red green"), ("Mood", "sad")] ∧
      ∃ restoring,
        (registry.vector "b" "nominal"
          (some (EffectiveState.empty.applyAll [vector]).snapshot)).outcome = .ok restoring ∧
        EffectiveState.empty.apply restoring = EffectiveState.empty.applyAll [vector] := by
  intro text mood colors registry criterion overrides vector
  have hregistry : (ofText text).outcome = .ok registry :=
    ofText_eq_ok_iff.mpr ⟨[mood, colors], by decide +kernel, rfl⟩
  have hcolors : colors ∈ registry.definitions := by decide +kernel
  have hsnapshot : criterion.snapshot = "red green" := by decide +kernel
  have hvector : (registry.vector "a" "burst" (some overrides)).outcome = .ok vector := by
    decide +kernel
  obtain ⟨hcriterion, -, -, hstate⟩ := snapshots_restore hregistry
  refine ⟨hregistry, hsnapshot, ?_, hvector, by decide +kernel, ?_⟩
  · rw [← hsnapshot]
    exact hcriterion colors hcolors criterion ⟨_, rfl⟩
  · exact hstate _ (List.forall_mem_singleton.mpr ⟨_, _, _, hvector⟩) "b" "nominal"

end Registry

end Criteria
