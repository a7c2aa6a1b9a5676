import Criteria.Proofs.Grammar
import Criteria.Registry

/-!
# What the registry of a text holds

Registering definitions never fails, so a text makes a registry exactly when it is a definition
file, and the registry then holds definitions of that file and nothing else. Under each name it
holds one of them, so that the definition can be told from the name.
-/

namespace Criteria

/-- Reporting the number of definitions does not change what comes of reading them. -/
theorem Definition.outcome_load (text : String) :
    (Definition.load text).outcome = Definition.parse text := by
  rw [Definition.load]
  cases Definition.parse text with
  | error fault => rw [Traced.bind_of_error rfl]
  | ok definitions => rw [Traced.bind_of_ok rfl]; rfl

namespace Registry

/-- Definitions of one name in a registry are one definition. -/
theorem eq_of_name_eq {registry : Registry} {first second : Definition}
    (hfirst : first ∈ registry.definitions) (hsecond : second ∈ registry.definitions)
    (hname : first.name = second.name) : first = second := by
  obtain ⟨i, hi⟩ := Array.getElem?_of_mem hfirst
  obtain ⟨j, hj⟩ := Array.getElem?_of_mem hsecond
  have hindexFirst : registry.index[first.name]? = some i := by
    rw [registry.index_eq_some_iff, hi, Option.map_some]
  have hindexSecond : registry.index[first.name]? = some j := by
    rw [registry.index_eq_some_iff, hj, Option.map_some, hname]
  obtain rfl := Option.some.inj (hindexFirst.symm.trans hindexSecond)
  exact Option.some.inj (hi.symm.trans hj)

/-- The registry holds the definition that it finds. -/
theorem mem_of_find? {registry : Registry} {name : String} {definition : Definition}
    (h : registry.find? name = some definition) : definition ∈ registry.definitions := by
  unfold find? at h
  split at h
  · exact Option.some.inj h ▸ Array.getElem_mem _
  · contradiction

/-- A definition is found under a name exactly when the registry holds it and it has the name. -/
theorem find?_eq_some_iff {registry : Registry} {name : String} {definition : Definition} :
    registry.find? name = some definition ↔
      definition ∈ registry.definitions ∧ definition.name = name := by
  refine ⟨fun h => ⟨mem_of_find? h, name_of_find? h⟩, ?_⟩
  rintro ⟨hmem, rfl⟩
  obtain ⟨position, hposition⟩ := Array.getElem?_of_mem hmem
  have hindex : registry.index[definition.name]? = some position := by
    rw [registry.index_eq_some_iff, hposition, Option.map_some]
  have htaken : (registry.find? definition.name).isSome := by
    rw [isSome_find?, contains, Std.ExtTreeMap.contains_eq_isSome_getElem?, hindex,
      Option.isSome_some]
  obtain ⟨found, hfound⟩ := Option.isSome_iff_exists.mp htaken
  rw [hfound, eq_of_name_eq (mem_of_find? hfound) hmem (name_of_find? hfound)]

/-- A name is registered exactly when a definition is found under it. -/
theorem mem_names_iff {registry : Registry} {name : String} :
    name ∈ registry.names ↔ ∃ definition, registry.find? name = some definition := by
  simp only [names, List.mem_map, Array.mem_toList_iff, find?_eq_some_iff]

/-- A registry into which a definition was put holds that one and those it held before. -/
theorem mem_definitions_insert {registry : Registry} {added definition : Definition}
    (h : definition ∈ (registry.insert added).definitions) :
    definition = added ∨ definition ∈ registry.definitions := by
  unfold insert at h
  split at h
  · next position hindex =>
    change definition ∈ registry.definitions.set position added
      (registry.lt_size_of_index hindex) at h
    rcases Array.mem_or_eq_of_mem_set h with hbefore | heq
    · exact .inr hbefore
    · exact .inl heq
  · next hindex =>
    change definition ∈ registry.definitions.push added at h
    rw [Array.mem_push] at h
    exact h.symm

/-- A registry into which definitions were put holds those and the ones it held before. -/
theorem mem_definitions_foldl_insert {registry : Registry} {added : List Definition}
    {definition : Definition} (h : definition ∈ (added.foldl insert registry).definitions) :
    definition ∈ added ∨ definition ∈ registry.definitions := by
  induction added generalizing registry with
  | nil => exact .inr h
  | cons first rest ih =>
    rcases ih h with hrest | hinsert
    · exact .inl (List.mem_cons_of_mem first hrest)
    · rcases mem_definitions_insert hinsert with rfl | hbefore
      · exact .inl List.mem_cons_self
      · exact .inr hbefore

/-- Registering definitions puts them into the registry one by one, and is never refused. -/
theorem outcome_registerAll (registry : Registry) (definitions : List Definition) :
    (registry.registerAll definitions).outcome = .ok (definitions.foldl insert registry) := by
  induction definitions generalizing registry with
  | nil => rfl
  | cons definition rest ih =>
    rw [registerAll, List.foldlM_cons, Traced.outcome_bind_eq_ok_iff]
    exact ⟨registry.insert definition, rfl, ih (registry.insert definition)⟩

/-- A text makes a registry exactly when it is a definition file, and the registry is then the one
into which its definitions are put in order. -/
theorem ofText_eq_ok_iff {text : String} {registry : Registry} :
    (ofText text).outcome = .ok registry ↔
      ∃ definitions, Definition.parse text = .ok definitions ∧
        registry = definitions.foldl insert empty := by
  simp only [ofText, Traced.outcome_bind_eq_ok_iff, Definition.outcome_load, outcome_registerAll,
    Except.ok.injEq]
  exact exists_congr fun definitions => and_congr_right fun _ => eq_comm

/-- The registry of a text holds clean definitions only. -/
theorem clean_of_ofText {text : String} {registry : Registry}
    (h : (ofText text).outcome = .ok registry) {definition : Definition}
    (hmem : definition ∈ registry.definitions) : definition.Clean := by
  obtain ⟨definitions, hparse, rfl⟩ := ofText_eq_ok_iff.mp h
  rcases mem_definitions_foldl_insert hmem with hparsed | hempty
  · exact Definition.clean_of_parse hparse definition hparsed
  · exact absurd hempty (Array.not_mem_empty definition)

end Registry

end Criteria
