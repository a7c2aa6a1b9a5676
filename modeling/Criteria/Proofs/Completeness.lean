import Criteria.Proofs.Redefinition
import Criteria.Proofs.Snapshot

/-!
# The effective state is valid and becomes complete

The state behind any vectors of a registry holds values that the definitions of the registry can
show, and no others, for what a vector leaves under a name was reached from the definition of that
name. A vector sets the names of its criteria and nothing is ever unset, so the state does not
shrink. The baseline has a criterion for every definition. From then on exactly the registered names
are set, and what came before the baseline has left no trace.
-/

namespace Criteria

/-! ## What a definition can show -/

/-- The values that a criterion of a definition can show: one value, which is `"0"` or allowed, if
it is exclusive; if it is inclusive, `"0"` alone or some allowed values other than `"0"`, in the
order of their declaration. -/
def Definition.Shows (definition : Definition) (values : List String) : Prop :=
  match definition.kind with
  | .exclusive => ∃ value, values = [value] ∧ (value = noValue ∨ value ∈ definition.allowed)
  | .inclusive => values = [noValue] ∨
      values ≠ [] ∧ noValue ∉ values ∧
        values = definition.allowed.filter fun value => value ∈ values

/-- An inclusive criterion that holds something shows allowed values other than `"0"`, in the order
of their declaration. -/
theorem Criterion.Valid.values_eq_filter {criterion : Inclusive}
    (hvalid : (Criterion.inclusive criterion).Valid)
    (hset : ¬(Criterion.inclusive criterion).isUnset) :
    noValue ∉ (Criterion.inclusive criterion).values ∧
      (Criterion.inclusive criterion).values = criterion.definition.allowed.filter fun value =>
        value ∈ (Criterion.inclusive criterion).values := by
  refine ⟨mt (hvalid.mem_values_iff hset).mp hvalid.noValue_not_mem, ?_⟩
  simp only [hvalid.mem_values_iff hset]
  exact Criterion.values_of_not_isUnset hset

/-- A criterion that is reached shows what its definition can show. -/
theorem Definition.Reaches.shows {definition : Definition} {criterion : Criterion}
    (h : definition.Reaches criterion) : definition.Shows criterion.values := by
  rcases h.exclusive_or_inclusive with ⟨current, rfl, hkind, hcurrent⟩ | ⟨held, rfl, hkind, hvalid⟩
  · rw [Shows, hkind]
    exact ⟨current, rfl, hcurrent⟩
  · rw [Shows, hkind]
    by_cases hunset : (Criterion.inclusive ⟨definition, held⟩).isUnset
    · exact .inl (hvalid.isUnset_iff.mp hunset)
    · exact .inr ⟨hvalid.values_ne_nil, hvalid.values_eq_filter hunset⟩

/-! ## What a vector leaves -/

/-- The criteria asked for have the names of their definitions, in that order. -/
theorem names_chosen_sublist (definitions : List Definition) (request : String → Option String) :
    ((chosen definitions request).map Criterion.name).Sublist
      (definitions.map Definition.name) := by
  induction definitions with
  | nil => exact List.Sublist.slnil
  | cons definition rest ih =>
    cases hraw : request definition.name with
    | none =>
      rw [chosen, List.filterMap_cons_none (by rw [hraw]; rfl)]
      exact ih.cons _
    | some raw =>
      have hname : (definition.holding raw).name = definition.name := by
        rw [Criterion.name, definition.definition_holding]
      rw [chosen, List.filterMap_cons_some (by rw [hraw]; rfl), List.map_cons, List.map_cons, hname]
      exact ih.cons_cons _

/-- No two criteria of a generated vector have one name. -/
theorem Registry.Generates.nodup_names {registry : Registry} {vector : TestVector}
    (h : registry.Generates vector) : (vector.criteria.map Criterion.name).Nodup := by
  obtain ⟨name, testType, overrides, h⟩ := h
  obtain ⟨-, rfl⟩ := outcome_vector_eq_ok_iff.mp h
  exact (names_chosen_sublist _ _).nodup registry.nodup_names

/-- Of criteria with different names, the last of a name is also the first. -/
theorem Criterion.find?_reverse_of_nodup {criteria : List Criterion}
    (h : (criteria.map Criterion.name).Nodup) (name : String) :
    (criteria.reverse.find? fun criterion => criterion.name = name) =
      criteria.find? fun criterion => criterion.name = name := by
  induction criteria with
  | nil => rfl
  | cons criterion rest ih =>
    obtain ⟨hfirst, hrest⟩ := List.nodup_cons.mp h
    rw [List.reverse_cons, List.find?_append, ih hrest]
    by_cases hname : criterion.name = name
    · have hnone : (rest.find? fun criterion => criterion.name = name) = none := by
        refine List.find?_eq_none.mpr fun other hother heq => hfirst ?_
        rw [hname, ← of_decide_eq_true heq]
        exact List.mem_map_of_mem hother
      simp [hnone, hname]
    · simp [hname]

/-- A generated vector finds each of its criteria by its name. -/
theorem Registry.Generates.find?_name {registry : Registry} {vector : TestVector}
    (h : registry.Generates vector) {criterion : Criterion} (hmem : criterion ∈ vector.criteria) :
    vector.find? criterion.name = some criterion := by
  cases hfind : vector.find? criterion.name with
  | none =>
    have hother := List.find?_eq_none.mp hfind criterion hmem
    exact absurd (decide_eq_true rfl) hother
  | some first =>
    have hname := List.find?_some hfind
    have hfirst := List.mem_of_find?_eq_some hfind
    rw [List.inj_on_of_nodup_map h.nodup_names hfirst hmem (of_decide_eq_true hname)]

namespace EffectiveState

variable {registry : Registry} {state : EffectiveState} {vector baseline : TestVector}
  {vectorName testType : String}

/-- Under each name a generated vector leaves what its criterion of that name shows. -/
theorem find?_apply_generated (h : registry.Generates vector) (state : EffectiveState)
    (name : String) :
    (state.apply vector).find? name =
      ((vector.find? name).map Criterion.values).or (state.find? name) := by
  rw [find?_apply, Criterion.find?_reverse_of_nodup h.nodup_names, TestVector.find?]

/-- A vector unsets nothing. -/
theorem size_le_size_apply (state : EffectiveState) (vector : TestVector) :
    state.size ≤ (state.apply vector).size := by
  obtain ⟨vectorName, testType, criteria⟩ := vector
  induction criteria generalizing state with
  | nil => exact Nat.le_refl _
  | cons criterion rest ih =>
    have hassign : state.size ≤ (state.assign criterion.name criterion.values).size :=
      Std.ExtTreeMap.size_le_size_insert
    exact hassign.trans (ih _)

/-! ## Complete states -/

/-- Every registered name is set. -/
def Complete (state : EffectiveState) (registry : Registry) : Prop :=
  ∀ name ∈ registry.names, (state.find? name).isSome = true

/-- The baseline sets every registered name. -/
theorem complete_apply_baseline
    (hbaseline : (registry.vector vectorName testType none).outcome = .ok baseline)
    (state : EffectiveState) : (state.apply baseline).Complete registry := by
  intro name hmem
  obtain ⟨definition, hfind⟩ := Registry.mem_names_iff.mp hmem
  rw [Registry.find?_apply_vector hbaseline, hfind]
  rfl

/-- A complete state stays complete under a vector. -/
theorem Complete.apply (h : state.Complete registry) (vector : TestVector) :
    (state.apply vector).Complete registry := by
  intro name hmem
  rw [find?_apply, Option.isSome_or, h name hmem, Bool.or_true]

/-- A complete state stays complete under any vectors. -/
theorem Complete.applyAll (h : state.Complete registry) (vectors : List TestVector) :
    (state.applyAll vectors).Complete registry := by
  induction vectors generalizing state with
  | nil => exact h
  | cons vector rest ih => exact ih (h.apply vector)

/-- In a complete state drawn from the registry exactly the registered names are set. -/
theorem Complete.isSome_iff (h : state.Complete registry) (hdrawn : state.DrawnFrom registry)
    (name : String) : (state.find? name).isSome = true ↔ name ∈ registry.names := by
  refine ⟨fun hset => ?_, h name⟩
  obtain ⟨values, hvalues⟩ := Option.isSome_iff_exists.mp hset
  obtain ⟨definition, -, hfind, -⟩ := hdrawn name values hvalues
  exact Registry.mem_names_iff.mpr ⟨definition, hfind⟩

/-- A complete state drawn from the registry is as large as the registry. -/
theorem Complete.size_eq (h : state.Complete registry) (hdrawn : state.DrawnFrom registry) :
    state.size = registry.size := by
  have hperm : state.values.keys.Perm registry.names :=
    (List.perm_ext_iff_of_nodup Std.ExtTreeMap.nodup_keys registry.nodup_names).mpr fun name => by
      rw [Std.ExtTreeMap.mem_keys, Std.ExtTreeMap.mem_iff_isSome_getElem?]
      exact h.isSome_iff hdrawn name
  rw [size, ← Std.ExtTreeMap.length_keys, hperm.length_eq, registry.length_names]

/-- After the baseline nothing is left of a state drawn from the registry. -/
theorem DrawnFrom.apply_baseline (h : state.DrawnFrom registry)
    (hbaseline : (registry.vector vectorName testType none).outcome = .ok baseline) :
    state.apply baseline = empty.apply baseline := by
  apply ext_find?
  intro name
  rw [Registry.find?_apply_vector hbaseline, Registry.find?_apply_vector hbaseline]
  cases hfind : registry.find? name with
  | some definition => rfl
  | none =>
    -- The baseline does not reach such a name, but no vector before it can have set it either.
    have hunset : state.find? name = none := by
      rw [Option.eq_none_iff_forall_ne_some]
      intro values hvalues
      obtain ⟨definition, -, hknown, -⟩ := h name values hvalues
      rw [hfind] at hknown
      contradiction
    rw [hunset, empty, find?, Std.ExtTreeMap.getElem?_empty]

/-- The state behind any vectors of a registry holds, under registered names only, values that their
definitions can show. A further vector leaves under the name of each of its criteria, which is the
first that the vector finds by that name, the values of the criterion, and leaves every other name
alone; nothing gets lost. A baseline is always to be had and makes of the state what it makes of the
empty one, and from then on, whatever vectors follow, the names that are set are exactly the
registered ones, and as many. -/
theorem applyAll_valid_and_complete {vectors : List TestVector}
    (hvectors : ∀ vector ∈ vectors, registry.Generates vector) :
    let state := empty.applyAll vectors
    (∀ name values, state.find? name = some values →
      ∃ definition, registry.find? name = some definition ∧ definition.Shows values) ∧
    (∀ vector, registry.Generates vector →
      (∀ criterion ∈ vector.criteria, vector.find? criterion.name = some criterion ∧
        (state.apply vector).find? criterion.name = some criterion.values) ∧
      (∀ name, vector.find? name = none →
        (state.apply vector).find? name = state.find? name) ∧
      state.size ≤ (state.apply vector).size) ∧
    ∀ name testType, ∃ baseline, (registry.vector name testType none).outcome = .ok baseline ∧
      state.apply baseline = empty.apply baseline ∧
      ∀ later : List TestVector, (∀ vector ∈ later, registry.Generates vector) →
        let after := (state.apply baseline).applyAll later
        after.size = registry.size ∧
          ∀ known, (after.find? known).isSome = true ↔ known ∈ registry.names := by
  intro state
  have hdrawn : state.DrawnFrom registry :=
    (drawnFrom_empty registry).applyAll fun vector hmem => (hvectors vector hmem).drawnFrom
  refine ⟨fun name values hvalues => ?_, fun vector hvector => ⟨fun criterion hmem => ?_, ?_,
    size_le_size_apply state vector⟩, fun name testType => ?_⟩
  · obtain ⟨definition, criterion, hfind, hreaches, rfl⟩ := hdrawn name values hvalues
    exact ⟨definition, hfind, hreaches.shows⟩
  · have hfind := hvector.find?_name hmem
    rw [find?_apply_generated hvector, hfind]
    exact ⟨rfl, rfl⟩
  · intro name hnone
    rw [find?_apply_generated hvector, hnone, Option.map_none, Option.none_or]
  · have hbaseline : (registry.vector name testType none).outcome = .ok _ :=
      Registry.outcome_vector_eq_ok_iff.mpr ⟨admissible_requested_none _, rfl⟩
    refine ⟨_, hbaseline, hdrawn.apply_baseline hbaseline, fun later hlater => ?_⟩
    have hgenerated : registry.Generates _ := ⟨_, _, _, hbaseline⟩
    have hafter := (hdrawn.apply hgenerated.drawnFrom).applyAll fun vector hmem =>
      (hlater vector hmem).drawnFrom
    have hcomplete := (complete_apply_baseline hbaseline state).applyAll later
    exact ⟨hcomplete.size_eq hafter, hcomplete.isSome_iff hafter⟩

/-- A state is valid and becomes complete also over a registry in which a name was defined again and
a value was declared twice. -/
theorem applyAll_valid_and_complete_after_redefinition :
    let colors : Definition := ⟨.inclusive, "Colors", ["red", "0", "green", "red"]⟩
    let mood : Definition := ⟨.exclusive, "Mood", ["mad", "sad"]⟩
    let registry := [⟨.inclusive, "Mood", ["x"]⟩, colors, mood].foldl Registry.insert .empty
    let overrides : Overrides := .ofList [("Colors", "green red"), ("Ghost", "boo")]
    let vector : TestVector := ⟨"a", "burst", [colors.fresh.afterAll [.raw "green red"]]⟩
    let state := empty.applyAll [vector]
    (registry.vector "a" "burst" (some overrides)).outcome = .ok vector ∧
      state.find? "Colors" = some ["red", "green", "red"] ∧ state.size = 1 ∧
      (∃ definition, registry.find? "Colors" = some definition ∧
        definition.Shows ["red", "green", "red"]) ∧
      ∃ baseline, (registry.vector "b" "nominal" none).outcome = .ok baseline ∧
        state.apply baseline = empty.apply baseline ∧
        ((state.apply baseline).applyAll [vector]).size = registry.size ∧ registry.size = 2 := by
  intro colors mood registry overrides vector state
  have hvector : (registry.vector "a" "burst" (some overrides)).outcome = .ok vector := by
    decide +kernel
  have hgenerated : ∀ other ∈ [vector], registry.Generates other :=
    List.forall_mem_singleton.mpr ⟨_, _, _, hvector⟩
  have hcolors : state.find? "Colors" = some ["red", "green", "red"] := by decide +kernel
  obtain ⟨hvalid, -, hbaseline⟩ := applyAll_valid_and_complete hgenerated
  obtain ⟨baseline, houtcome, hreset, hlater⟩ := hbaseline "b" "nominal"
  exact ⟨hvector, hcolors, by decide +kernel, hvalid "Colors" _ hcolors, baseline, houtcome, hreset,
    (hlater [vector] hgenerated).1, by decide +kernel⟩

end EffectiveState

end Criteria
