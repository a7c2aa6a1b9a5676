import Criteria.Proofs.Deltas
import Criteria.Proofs.Redefinition

/-!
# What one more definition leaves alone

A definition that is put into a registry goes to the end, or to the place of the earlier one of its
name. All others stay what they are and where they are. So overrides that do not name it generate
what they did before and leave the same log, whether or not they are admitted.

The baseline names every criterion, and so it does change: it has one assignment more at its end, or
the assignment of the name has another kind. A kind is on no line of a vector, therefore the digest
of the baseline changes only with the names.
-/

namespace Criteria

variable {overrides : Overrides} {definition : Definition}

/-! ## Definitions that are named -/

/-- The definitions that are named by overrides. -/
def namedBy (overrides : Overrides) (definitions : List Definition) : List Definition :=
  definitions.filter fun definition => definition.name ∈ overrides

theorem namedBy_append (overrides : Overrides) (first second : List Definition) :
    namedBy overrides (first ++ second) = namedBy overrides first ++ namedBy overrides second :=
  List.filter_append first second

theorem namedBy_cons_of_mem (h : definition.name ∈ overrides) (rest : List Definition) :
    namedBy overrides (definition :: rest) = definition :: namedBy overrides rest :=
  List.filter_cons_of_pos (decide_eq_true h)

theorem namedBy_cons_of_not_mem (h : definition.name ∉ overrides) (rest : List Definition) :
    namedBy overrides (definition :: rest) = namedBy overrides rest :=
  List.filter_cons_of_neg (by simpa using h)

/-- A delta is made from the definitions that are named. -/
theorem deltaCriteria_namedBy (overrides : Overrides) (definitions : List Definition) :
    deltaCriteria overrides (namedBy overrides definitions) =
      deltaCriteria overrides definitions := by
  induction definitions with
  | nil => rfl
  | cons definition rest ih =>
    cases hraw : overrides[definition.name]? with
    | none =>
      have hnot : definition.name ∉ overrides := by
        simp [Std.ExtTreeMap.mem_iff_isSome_getElem?, hraw]
      rw [namedBy_cons_of_not_mem hnot, deltaCriteria_cons_of_none hraw, ih]
    | some raw =>
      have hmem : definition.name ∈ overrides := by
        simp [Std.ExtTreeMap.mem_iff_isSome_getElem?, hraw]
      rw [namedBy_cons_of_mem hmem, deltaCriteria_cons_of_some hraw,
        deltaCriteria_cons_of_some hraw, ih]

/-- An override names one of the definitions that are named, or no definition at all. -/
theorem unknownNames_namedBy (overrides : Overrides) (definitions : List Definition) :
    unknownNames (namedBy overrides definitions) overrides =
      unknownNames definitions overrides := by
  refine List.filter_congr fun name hname => ?_
  have hmem : name ∈ overrides := Std.ExtTreeMap.mem_keys.mp hname
  rw [namedBy, List.any_filter]
  congr 1
  refine List.any_congr rfl fun definition => ?_
  by_cases heq : definition.name = name <;> simp [heq, hmem]

/-- What is generated from overrides, and what is reported meanwhile, depends on the definitions
that are named and on no others. -/
theorem generateCriteria_congr_namedBy {first second : List Definition}
    (h : namedBy overrides first = namedBy overrides second) :
    generateCriteria first (some overrides) = generateCriteria second (some overrides) := by
  rw [generateCriteria, generateCriteria, ← unknownNames_namedBy overrides first, h,
    unknownNames_namedBy, ← deltaCriteria_namedBy overrides first, h, deltaCriteria_namedBy]

/-! ## The baseline -/

/-- `"0"` asks for itself. -/
theorem Definition.asked_noValue (definition : Definition) :
    definition.asked noValue = [noValue] := by
  unfold asked
  cases definition.kind <;> simp [trim_noValue, words_noValue]

/-- The criterion of a definition in the baseline is assigned `"0"`. -/
theorem Definition.assignment_reset_fresh (definition : Definition) :
    definition.fresh.reset.assignment = ⟨definition.name, definition.kind, [noValue]⟩ := by
  rw [reset_fresh, Criterion.assignment, Criterion.name, Criterion.kind, definition_holding,
    definition.admits_noValue.values_holding, asked_noValue]

namespace Registry

variable {registry : Registry}

/-- The baseline assigns `"0"` to the criteria of all definitions. -/
theorem assignments_baseline {name : String} {baseline : TestVector}
    (h : (registry.baseline name).outcome = .ok baseline) :
    baseline.assignments = registry.definitions.toList.map fun definition =>
      ⟨definition.name, definition.kind, [noValue]⟩ := by
  obtain rfl := Except.ok.inj h
  rw [TestVector.assignments, baselineCriteria, List.map_map]
  exact List.map_congr_left fun definition _ => definition.assignment_reset_fresh

/-- The lines of the baseline can be told from the names. -/
theorem criterionLines_baseline {name : String} {baseline : TestVector}
    (h : (registry.baseline name).outcome = .ok baseline) :
    baseline.criterionLines =
      String.join (registry.names.map fun name => name ++ " = " ++ noValue ++ "\n") := by
  obtain rfl := Except.ok.inj h
  rw [TestVector.criterionLines, baselineCriteria, names, List.map_map, List.map_map]
  refine congrArg String.join (List.map_congr_left fun definition _ => ?_)
  have hshown := definition.assignment_reset_fresh
  rw [Criterion.assignment, Assignment.mk.injEq] at hshown
  simp [Criterion.line, hshown]

/-! ## Where a definition goes -/

/-- A definition of a name that is taken goes to the place of the one found under the name. -/
theorem toList_insert_of_mem (h : definition.name ∈ registry.names) :
    ∃ before earlier after, registry.index[definition.name]? = some before.length ∧
      registry.find? definition.name = some earlier ∧
      registry.definitions.toList = before ++ earlier :: after ∧
      (registry.insert definition).definitions.toList = before ++ definition :: after := by
  obtain ⟨position, hposition⟩ := List.getElem?_of_mem h
  have hindex := index_eq_some_iff_names.mpr hposition
  obtain ⟨earlier, hearlier, hname⟩ :=
    Option.map_eq_some_iff.mp ((registry.index_eq_some_iff _ _).mp hindex)
  have hlt : position < registry.definitions.toList.length := registry.lt_size_of_index hindex
  have hget : registry.definitions.toList[position] = earlier := by
    rw [← Array.getElem?_toList, List.getElem?_eq_getElem hlt] at hearlier
    exact Option.some.inj hearlier
  refine ⟨registry.definitions.toList.take position, earlier,
    registry.definitions.toList.drop (position + 1), ?_, ?_, ?_, ?_⟩
  · rw [hindex, List.length_take_of_le (Nat.le_of_lt hlt)]
  · exact find?_eq_some_iff.mpr ⟨Array.mem_of_getElem? hearlier, hname⟩
  · rw [← hget, ← List.drop_eq_getElem_cons hlt, List.take_append_drop]
  · rw [insert_eq_replace hindex, replace, Array.toList_set, List.set_eq_take_append_cons_drop,
      if_pos hlt]

/-- A definition of a name that is not taken goes behind the others. -/
theorem toList_insert_of_not_mem (h : definition.name ∉ registry.names) :
    (registry.insert definition).definitions.toList =
      registry.definitions.toList ++ [definition] := by
  have hindex : registry.index[definition.name]? = none := by
    rw [Option.eq_none_iff_forall_ne_some]
    exact fun position hposition => h (List.mem_of_getElem? (index_eq_some_iff_names.mp hposition))
  rw [insert_eq_append hindex, append, Array.toList_push]

/-! ## What is generated with it -/

/-- A definition that is not named leaves those that are named what and where they are. -/
theorem namedBy_insert (registry : Registry) (h : definition.name ∉ overrides) :
    namedBy overrides (registry.insert definition).definitions.toList =
      namedBy overrides registry.definitions.toList := by
  by_cases hmem : definition.name ∈ registry.names
  · obtain ⟨before, earlier, after, -, hfind, hbefore, hafter⟩ := toList_insert_of_mem hmem
    have hearlier : earlier.name ∉ overrides := by rwa [name_of_find? hfind]
    rw [hbefore, hafter, namedBy_append, namedBy_append, namedBy_cons_of_not_mem h,
      namedBy_cons_of_not_mem hearlier]
  · rw [toList_insert_of_not_mem hmem, namedBy_append, namedBy_cons_of_not_mem h]
    exact List.append_nil _

/-- Overrides that do not name a definition generate the same with it and without it. -/
theorem vector_insert (registry : Registry) (h : definition.name ∉ overrides)
    (name testType : String) :
    (registry.insert definition).vector name testType (some overrides) =
      registry.vector name testType (some overrides) := by
  rw [vector, vector, generateCriteria_congr_namedBy (registry.namedBy_insert h)]

/-- Registering a definition never fails, and it disturbs no vector that does not name it: overrides
without the name give the same vector as before, or are refused for the same fault, and leave the
same log.

In the baseline all other assignments stay what and where they are. If the name is new, the
criterion is assigned `"0"` behind them. If the name is taken, its assignment in the old place is
still that of `"0"` and takes the kind of the definition; no line changes then, nor does the
digest. -/
theorem register_disturbs_no_other (registry : Registry) (definition : Definition) :
    ∃ grown, (registry.register definition).outcome = .ok grown ∧
      (∀ overrides : Overrides, definition.name ∉ overrides → ∀ name testType,
        grown.vector name testType (some overrides) =
          registry.vector name testType (some overrides)) ∧
      ∀ name, ∃ before after, (registry.baseline name).outcome = .ok before ∧
        (grown.baseline name).outcome = .ok after ∧
        (definition.name ∉ registry.names →
          after.assignments =
              before.assignments ++ [⟨definition.name, definition.kind, [noValue]⟩] ∧
            after.criterionLines =
              before.criterionLines ++ definition.name ++ " = " ++ noValue ++ "\n") ∧
        (definition.name ∈ registry.names →
          (∃ front earlier back, registry.find? definition.name = some earlier ∧
            registry.index[definition.name]? = some front.length ∧
            before.assignments = front ++ ⟨definition.name, earlier.kind, [noValue]⟩ :: back ∧
            after.assignments = front ++ ⟨definition.name, definition.kind, [noValue]⟩ :: back) ∧
          after.criterionLines = before.criterionLines ∧ after.digest = before.digest) := by
  refine ⟨registry.insert definition, rfl, fun overrides h name testType =>
    registry.vector_insert h name testType, fun name => ?_⟩
  obtain ⟨before, hbefore⟩ := registry.exists_baseline name
  obtain ⟨after, hafter⟩ := (registry.insert definition).exists_baseline name
  refine ⟨before, after, hbefore, hafter, fun hnew => ⟨?_, ?_⟩, fun htaken => ?_⟩
  · rw [assignments_baseline hafter, assignments_baseline hbefore, toList_insert_of_not_mem hnew,
      List.map_append, List.map_singleton]
  · rw [criterionLines_baseline hafter, criterionLines_baseline hbefore, names_insert,
      if_neg hnew, List.map_append, List.map_singleton, String.join_append, String.join_cons,
      String.join_nil, String.append_empty]
    simp only [String.append_assoc]
  · have hlines : after.criterionLines = before.criterionLines := by
      rw [criterionLines_baseline hafter, criterionLines_baseline hbefore, names_insert,
        if_pos htaken]
    obtain ⟨front, earlier, back, hindex, hfind, hold, hgrown⟩ := toList_insert_of_mem htaken
    refine ⟨⟨front.map fun other => ⟨other.name, other.kind, [noValue]⟩, earlier,
      back.map fun other => ⟨other.name, other.kind, [noValue]⟩, hfind, ?_, ?_, ?_⟩, hlines,
      congrArg Digest.hexDigest hlines⟩
    · rw [hindex, List.length_map]
    · rw [assignments_baseline hbefore, hold, List.map_append, List.map_cons, name_of_find? hfind]
    · rw [assignments_baseline hafter, hgrown, List.map_append, List.map_cons]

end Registry

end Criteria
