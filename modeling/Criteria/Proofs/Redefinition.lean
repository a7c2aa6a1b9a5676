import Criteria.Proofs.Registration
import Mathlib.Data.Finset.Card
import Mathlib.Data.List.Induction
import Mathlib.Data.List.Nodup

/-!
# The last definition wins, in the first place

Registering a definition changes what is found under its name and nothing else, and a name keeps the
place that it had when it was first registered. So whatever definitions were registered, in whatever
order and under names that are repeated or not, the registry holds each name once, in the order of
first registration, and under each name the last definition of that name. It is the same to find a
name by the index and to look through the definitions, and to register all definitions once more
makes no difference.

It is part of the type of a registry that its index is right. The two tables are also taken on their
own, where a position that leads nowhere makes an access fail, and no access does.
-/

namespace Criteria

namespace Registry

variable {registry : Registry} {definition : Definition} {name : String} {position : Nat}

/-! ## Names and positions -/

/-- The name at a position is that of the definition there. -/
theorem getElem?_names (registry : Registry) (position : Nat) :
    registry.names[position]? = registry.definitions[position]?.map Definition.name := by
  rw [names, List.getElem?_map, Array.getElem?_toList]

/-- The index leads from each name to its position. -/
theorem index_eq_some_iff_names :
    registry.index[name]? = some position ↔ registry.names[position]? = some name := by
  rw [registry.index_eq_some_iff, getElem?_names]

/-- No name is held twice. -/
theorem nodup_names (registry : Registry) : registry.names.Nodup := by
  rw [List.nodup_iff_getElem?_ne_getElem?]
  intro first second hlt hlength heq
  obtain ⟨name, hname⟩ : ∃ name, registry.names[second]? = some name :=
    ⟨_, List.getElem?_eq_getElem hlength⟩
  have hfirst := index_eq_some_iff_names.mpr (heq.trans hname)
  have hsecond := index_eq_some_iff_names.mpr hname
  obtain rfl := Option.some.inj (hfirst.symm.trans hsecond)
  exact Nat.lt_irrefl _ hlt

/-- There are as many definitions as names. -/
theorem length_names (registry : Registry) : registry.names.length = registry.size := by
  rw [names, List.length_map, Array.length_toList, size]

/-- There are as many definitions as different names. -/
theorem size_eq_card_names (registry : Registry) :
    registry.size = registry.names.toFinset.card := by
  rw [List.toFinset_card_of_nodup registry.nodup_names, length_names]

/-- A name is taken exactly when it is among the names. -/
theorem contains_iff_mem_names : registry.contains name = true ↔ name ∈ registry.names := by
  rw [← isSome_find?, Option.isSome_iff_exists, mem_names_iff]

/-- Finding a name is looking for it among the definitions, one after another. -/
theorem find?_eq_find?_toList (registry : Registry) (name : String) :
    registry.find? name =
      registry.definitions.toList.find? fun definition => definition.name = name := by
  cases hscan : registry.definitions.toList.find? fun definition => definition.name = name with
  | some definition =>
    have hname := List.find?_some hscan
    exact find?_eq_some_iff.mpr
      ⟨Array.mem_toList_iff.mp (List.mem_of_find?_eq_some hscan), of_decide_eq_true hname⟩
  | none =>
    rw [Option.eq_none_iff_forall_ne_some]
    intro definition hfind
    obtain ⟨hmem, hname⟩ := find?_eq_some_iff.mp hfind
    exact List.find?_eq_none.mp hscan definition (Array.mem_toList_iff.mpr hmem)
      (decide_eq_true hname)

/-- The definitions are those found under the names, in order. -/
theorem map_find?_names (registry : Registry) :
    registry.names.map registry.find? = registry.definitions.toList.map some := by
  rw [names, List.map_map]
  exact List.map_congr_left fun definition hmem =>
    find?_eq_some_iff.mpr ⟨Array.mem_toList_iff.mp hmem, rfl⟩

/-- Registries with the same names in the same order, and the same definition under each name, are
one registry. -/
theorem ext_find? {other : Registry} (hnames : registry.names = other.names)
    (hfind : ∀ name, registry.find? name = other.find? name) : registry = other := by
  have hdefinitions : registry.definitions = other.definitions := by
    have hmap := registry.map_find?_names
    rw [hnames, funext hfind, other.map_find?_names] at hmap
    exact (Array.toList_inj.mp (List.map_injective_iff.mpr (Option.some_injective _) hmap)).symm
  have hindex : registry.index = other.index := by
    refine Std.ExtTreeMap.ext_getElem? fun name => Option.ext fun position => ?_
    rw [index_eq_some_iff_names, index_eq_some_iff_names, hnames]
  cases registry
  cases other
  simp_all

/-! ## One definition more -/

/-- A name that is not in the index is not taken. -/
theorem not_mem_names_of_index (h : registry.index[name]? = none) : name ∉ registry.names := by
  intro hmem
  obtain ⟨position, hposition⟩ := List.getElem?_of_mem hmem
  rw [index_eq_some_iff_names.mpr hposition] at h
  contradiction

/-- A definition of a name that is taken is put where the earlier one stands. -/
theorem insert_eq_replace (h : registry.index[definition.name]? = some position) :
    registry.insert definition = registry.replace definition position h := by
  unfold insert
  split
  · next other hother =>
    obtain rfl := Option.some.inj (hother.symm.trans h)
    rfl
  · next hnone =>
    rw [h] at hnone
    contradiction

/-- A definition of a name that is not taken is put behind the others. -/
theorem insert_eq_append (h : registry.index[definition.name]? = none) :
    registry.insert definition = registry.append definition h := by
  unfold insert
  split
  · next position hposition =>
    rw [h] at hposition
    contradiction
  · rfl

/-- A registry into which a definition was put holds that one, and those it held before under other
names. -/
theorem mem_definitions_insert_iff {added : Definition} :
    definition ∈ (registry.insert added).definitions ↔
      definition = added ∨ definition ∈ registry.definitions ∧ definition.name ≠ added.name := by
  cases hindex : registry.index[added.name]? with
  | some position =>
    rw [insert_eq_replace hindex, replace]
    simp only [Array.mem_iff_getElem?, Array.getElem?_set]
    constructor
    · rintro ⟨other, hother⟩
      split at hother
      · exact .inl (Option.some.inj hother).symm
      · next hne =>
        -- The index has one position for the name, and it is not this one.
        refine .inr ⟨⟨other, hother⟩, fun hname => hne ?_⟩
        have hindexOther : registry.index[added.name]? = some other := by
          rw [registry.index_eq_some_iff, hother, Option.map_some, hname]
        exact Option.some.inj (hindex.symm.trans hindexOther)
    · rintro (rfl | ⟨⟨other, hother⟩, hname⟩)
      · exact ⟨position, by rw [if_pos rfl]⟩
      · have hne : position ≠ other := by
          rintro rfl
          rw [registry.index_eq_some_iff, hother, Option.map_some] at hindex
          exact hname (Option.some.inj hindex)
        exact ⟨other, by rw [if_neg hne, hother]⟩
  | none =>
    have hnot : definition ∈ registry.definitions → definition.name ≠ added.name :=
      fun hmem hname => not_mem_names_of_index hindex
        (hname ▸ List.mem_map_of_mem (Array.mem_toList_iff.mpr hmem))
    rw [insert_eq_append hindex, append, Array.mem_push, or_comm, and_iff_left_of_imp hnot]

/-- Under the name of the definition that was put into the registry that one is found, and under any
other name what was found before. -/
theorem find?_insert (registry : Registry) (added : Definition) (name : String) :
    (registry.insert added).find? name =
      if added.name = name then some added else registry.find? name := by
  refine Option.ext fun definition => ?_
  rw [find?_eq_some_iff, mem_definitions_insert_iff]
  split
  · next heq =>
    subst heq
    grind
  · next hne =>
    rw [find?_eq_some_iff]
    grind

/-- A name that is taken keeps its place, and any other name goes to the end. -/
theorem names_insert (registry : Registry) (added : Definition) :
    (registry.insert added).names =
      if added.name ∈ registry.names then registry.names else registry.names ++ [added.name] := by
  cases hindex : registry.index[added.name]? with
  | some position =>
    have hposition := index_eq_some_iff_names.mp hindex
    obtain ⟨hlength, hname⟩ := List.getElem?_eq_some_iff.mp hposition
    rw [if_pos (List.mem_of_getElem? hposition), names, insert_eq_replace hindex,
      replace, Array.toList_set, List.map_set, ← names, ← hname, List.set_getElem_self]
  | none =>
    rw [if_neg (not_mem_names_of_index hindex), names, insert_eq_append hindex,
      append, Array.toList_push, List.map_append, ← names, List.map_singleton]

/-! ## Any number of definitions more -/

/-- A value at the end is dropped if it occurred before. -/
theorem eraseDups_concat (values : List String) (value : String) :
    (values ++ [value]).eraseDups =
      if value ∈ values then values.eraseDups else values.eraseDups ++ [value] := by
  rw [List.eraseDups_append]
  by_cases h : value ∈ values <;> simp [List.removeAll, List.eraseDups_cons, h]

/-- Under each name the last of the definitions that were put into the registry is found, and what
was found before if there is none of the name. -/
theorem find?_foldl_insert (registry : Registry) (definitions : List Definition) (name : String) :
    (definitions.foldl insert registry).find? name =
      (definitions.reverse.find? fun definition => definition.name = name).or
        (registry.find? name) := by
  induction definitions generalizing registry with
  | nil => rfl
  | cons definition rest ih =>
    rw [List.foldl_cons, ih, find?_insert, List.reverse_cons, List.find?_append]
    cases rest.reverse.find? fun definition => definition.name = name with
    | some last => rfl
    | none => by_cases hname : definition.name = name <;> simp [hname]

/-- Definitions of names that are taken change no place. -/
theorem names_foldl_insert_of_subset {definitions : List Definition}
    (h : ∀ definition ∈ definitions, definition.name ∈ registry.names) :
    (definitions.foldl insert registry).names = registry.names := by
  induction definitions generalizing registry with
  | nil => rfl
  | cons definition rest ih =>
    obtain ⟨hfirst, hrest⟩ := List.forall_mem_cons.mp h
    have hnames : (registry.insert definition).names = registry.names := by
      rw [names_insert, if_pos hfirst]
    rw [List.foldl_cons, ih (hnames ▸ hrest), hnames]

/-- The names are those of the definitions that were registered, in the order of first
registration. -/
theorem names_foldl_insert_empty (definitions : List Definition) :
    (definitions.foldl insert empty).names = (definitions.map Definition.name).eraseDups := by
  -- From the end, for whether the last name is new depends on all that were registered before it.
  induction definitions using List.reverseRecOn with
  | nil => rfl
  | append_singleton before definition ih =>
    rw [List.foldl_append, List.foldl_cons, List.foldl_nil, names_insert, ih, List.map_append,
      List.map_singleton, eraseDups_concat]
    simp only [List.mem_eraseDups]

/-- The names of a registry are those of the definitions that were registered. -/
theorem mem_names_foldl_insert_empty {definitions : List Definition} {name : String} :
    name ∈ (definitions.foldl insert empty).names ↔ name ∈ definitions.map Definition.name := by
  rw [names_foldl_insert_empty, List.mem_eraseDups]

/-- Definitions that were registered make no difference when they are registered once more. -/
theorem foldl_insert_foldl_insert (definitions : List Definition) :
    definitions.foldl insert (definitions.foldl insert empty) = definitions.foldl insert empty := by
  refine ext_find? (names_foldl_insert_of_subset fun definition hmem => ?_) fun name => ?_
  · exact mem_names_foldl_insert_empty.mpr (List.mem_map_of_mem hmem)
  · rw [find?_foldl_insert, find?_foldl_insert]
    cases definitions.reverse.find? fun definition => definition.name = name <;> rfl

end Registry

/-! ## The two tables on their own -/

/-- The two tables of a registry, of which it is not said that they fit together. -/
structure Tables where
  /-- The definitions. -/
  definitions : Array Definition
  /-- A position for some names. -/
  index : Std.ExtTreeMap String Nat

namespace Tables

/-- Both tables are empty. -/
def empty : Tables := ⟨#[], ∅⟩

/-- Write a definition to the position of its name, which must be one, or behind the others. -/
def register (tables : Tables) (definition : Definition) : Option Tables :=
  match tables.index[definition.name]? with
  | some position =>
    if h : position < tables.definitions.size then
      some { tables with definitions := tables.definitions.set position definition }
    else none
  | none =>
    some ⟨tables.definitions.push definition,
      tables.index.insert definition.name tables.definitions.size⟩

/-- Read the definition at the position of a name, which must be one, if the name has a position. -/
def find? (tables : Tables) (name : String) : Option (Option Definition) :=
  match tables.index[name]? with
  | some position => tables.definitions[position]?.map some
  | none => some none

end Tables

namespace Registry

/-- The tables of a registry. -/
def tables (registry : Registry) : Tables := ⟨registry.definitions, registry.index⟩

/-- Registering in the tables of a registry does not fail, and does what registering does. -/
theorem register_tables (registry : Registry) (definition : Definition) :
    registry.tables.register definition = some (registry.insert definition).tables := by
  rw [Tables.register]
  cases hindex : registry.index[definition.name]? with
  | some position =>
    have htables : registry.tables.index[definition.name]? = some position := hindex
    have hposition : position < registry.tables.definitions.size :=
      registry.lt_size_of_index hindex
    rw [insert_eq_replace hindex, htables]
    exact dif_pos hposition
  | none =>
    have htables : registry.tables.index[definition.name]? = none := hindex
    rw [insert_eq_append hindex, htables]
    rfl

/-- Registering one after another in the tables of a registry does not fail. -/
theorem foldlM_register_tables (registry : Registry) (definitions : List Definition) :
    definitions.foldlM Tables.register registry.tables =
      some (definitions.foldl insert registry).tables := by
  induction definitions generalizing registry with
  | nil => rfl
  | cons definition rest ih =>
    rw [List.foldlM_cons, register_tables, List.foldl_cons, ← ih]
    rfl

/-- Finding a name in the tables of a registry does not fail, and gives what finding it gives. -/
theorem find?_tables (registry : Registry) (name : String) :
    registry.tables.find? name = some (registry.find? name) := by
  rw [Tables.find?]
  cases hindex : registry.index[name]? with
  | some position =>
    have htables : registry.tables.index[name]? = some position := hindex
    obtain ⟨definition, hdefinition, hname⟩ :=
      Option.map_eq_some_iff.mp ((registry.index_eq_some_iff name position).mp hindex)
    have hread : registry.tables.definitions[position]? = some definition := hdefinition
    rw [htables, find?_eq_some_iff.mpr ⟨Array.mem_of_getElem? hdefinition, hname⟩]
    simp only [hread, Option.map_some]
  | none =>
    have htables : registry.tables.index[name]? = none := hindex
    have hnone : registry.find? name = none := by
      rw [← Option.not_isSome_iff_eq_none, isSome_find?, contains_iff_mem_names]
      exact not_mem_names_of_index hindex
    rw [htables, hnone]

/-- However definitions are registered one after another, in an empty registry and whether or not
names are repeated, the registry holds each name once, in the order of first registration, and as
many definitions as there are names. Under each name it finds the last definition of that name, if
there is one. The index, and looking through the definitions, find the same, and a name is taken
exactly when something is found. The index leads to the position of each name and nowhere else, so
in the two tables on their own no access fails. To register all definitions once more changes
nothing. -/
theorem registerAll_last_wins (definitions : List Definition) :
    ∃ registry, (empty.registerAll definitions).outcome = .ok registry ∧
      registry.names.Nodup ∧
      registry.names = (definitions.map Definition.name).eraseDups ∧
      registry.size = (definitions.map Definition.name).toFinset.card ∧
      (∀ name,
        registry.find? name = (definitions.reverse.find? fun definition => definition.name = name) ∧
        registry.find? name =
          (registry.definitions.toList.find? fun definition => definition.name = name) ∧
        registry.contains name = (registry.find? name).isSome ∧
        registry.contains name =
          registry.definitions.toList.any fun definition => definition.name = name) ∧
      (∀ name position, registry.index[name]? = some position ↔
        ∃ h : position < registry.definitions.size, registry.definitions[position].name = name) ∧
      definitions.foldlM Tables.register .empty = some registry.tables ∧
      (∀ name, registry.tables.find? name = some (registry.find? name)) ∧
      (registry.registerAll definitions).outcome = .ok registry := by
  refine ⟨_, outcome_registerAll empty definitions, nodup_names _,
    names_foldl_insert_empty definitions, ?_, fun name => ⟨?_, find?_eq_find?_toList _ name,
      (isSome_find? _ name).symm, ?_⟩, ?_, foldlM_register_tables empty definitions,
    find?_tables _, ?_⟩
  · rw [size_eq_card_names, names_foldl_insert_empty]
    exact congrArg Finset.card (Finset.ext fun name => by simp [List.mem_eraseDups])
  · rw [find?_foldl_insert, find?_eq_find?_toList empty]
    exact Option.or_none
  · rw [← isSome_find?, find?_eq_find?_toList, List.isSome_find?]
  · intro name position
    rw [index_eq_some_iff]
    simp [Array.getElem?_eq_some_iff]
  · rw [outcome_registerAll, foldl_insert_foldl_insert]

end Registry

end Criteria
