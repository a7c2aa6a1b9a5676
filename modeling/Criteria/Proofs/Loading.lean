import Criteria.Proofs.Grammar
import Criteria.Proofs.Redefinition

/-!
# What the log tells of a definition file

A definition file that is refused leaves no entry, for all its lines are read before anything is
written. One that is accepted leaves an entry with the number of its lines and then one entry for
each line, in order. Whether a definition replaces another one is decided by the index, which knows
names and no lines. Its names are those on the earlier lines, so a definition is told to replace
another exactly if one of the same name stands on an earlier line. The definitions that replace none
are as many as the names, and so as many as the registry has definitions.
-/

namespace Criteria

/-- Tell whether an event names itself so. -/
def Event.isNamed (event : Event) (name : String) : Bool :=
  event.fields.contains ("event", .tag name)

namespace Definition

/-! ## The events of registering -/

/-- The event that tells of a definition which is registered after others. -/
def registration (earlier : List Definition) (definition : Definition) : Event :=
  if definition.name ∈ earlier.map Definition.name then
    .replaced definition.name definition.kind
  else .registered definition.name definition.kind

/-- The events that tell of definitions which are registered in order, after others. -/
def registrations (earlier definitions : List Definition) : List Event :=
  definitions.mapIdx fun position definition =>
    definition.registration (earlier ++ definitions.take position)

variable {earlier definitions : List Definition} {definition : Definition}

/-- A definition that replaces another one is worth a warning. -/
theorem level_registration : (definition.registration earlier).level =
    if definition.name ∈ earlier.map Definition.name then .warn else .debug := by
  rw [registration]
  split <;> rfl

/-- The event of a definition has its name and the canonical token of its kind. -/
theorem fields_registration : (definition.registration earlier).fields =
    [("event", .tag (if definition.name ∈ earlier.map Definition.name then "registry.replaced"
      else "registry.registered")),
      ("criterion", .text definition.name), ("kind", .text definition.kind.token)] := by
  rw [registration]
  split <;> rfl

/-- The event of a definition names itself after whether the definition replaces another one. -/
theorem isNamed_registration (name : String) : (definition.registration earlier).isNamed name =
    decide (name = if definition.name ∈ earlier.map Definition.name then "registry.replaced"
      else "registry.registered") := by
  simp [Event.isNamed, fields_registration]

/-- The first of several definitions is registered after the others, and the rest after it. -/
theorem registrations_cons (earlier : List Definition) (definition : Definition)
    (rest : List Definition) : registrations earlier (definition :: rest) =
      definition.registration earlier :: registrations (earlier ++ [definition]) rest := by
  simp [registrations, List.mapIdx_cons]

/-- There is one event for each definition. -/
theorem length_registrations : (registrations earlier definitions).length = definitions.length :=
  List.length_mapIdx

/-- The event at a position tells of the definition there. -/
theorem getElem?_registrations (position : Nat) : (registrations earlier definitions)[position]? =
    definitions[position]?.map fun definition =>
      definition.registration (earlier ++ definitions.take position) :=
  List.getElem?_mapIdx

/-- A text that is refused is not reported as read. -/
theorem entries_load (text : String) : (load text).entries =
    match parse text with
    | .ok definitions => [(Event.definitionsLoaded definitions.length).entry]
    | .error _ => [] := by
  rw [load, Traced.entries_bind, Traced.ofExcept]
  cases parse text <;> rfl

end Definition

/-! ## The registry behind them -/

namespace Registry

open Definition

/-- What is reported of a definition is whether its name is one of those registered before. -/
theorem entries_register (earlier : List Definition) (definition : Definition) :
    ((earlier.foldl insert empty).register definition).entries =
      [(definition.registration earlier).entry] := by
  have htaken : (earlier.foldl insert empty).contains definition.name = true ↔
      definition.name ∈ earlier.map Definition.name :=
    contains_iff_mem_names.trans mem_names_foldl_insert_empty
  rw [register, registration, Traced.entries_bind]
  simp only [htaken]
  rfl

/-- Registering definitions in order is reported definition by definition. -/
theorem entries_registerAll (earlier definitions : List Definition) :
    ((earlier.foldl insert empty).registerAll definitions).entries =
      (registrations earlier definitions).map Event.entry := by
  induction definitions generalizing earlier with
  | nil => rfl
  | cons definition rest ih =>
    have hrest := ih (earlier ++ [definition])
    rw [List.foldl_append] at hrest
    have houtcome : ((earlier.foldl insert empty).register definition).outcome =
        .ok ((earlier.foldl insert empty).insert definition) := rfl
    rw [registrations_cons, List.map_cons, ← hrest, registerAll, List.foldlM_cons,
      Traced.bind_of_ok houtcome, entries_register]
    rfl

/-- A registry grows by a definition of a new name. -/
theorem size_insert (registry : Registry) (definition : Definition) :
    (registry.insert definition).size =
      if definition.name ∈ registry.names then registry.size else registry.size + 1 := by
  simp only [← length_names, names_insert]
  split
  · rfl
  · exact List.length_append

/-- The registry grows by one for each definition that is reported as new. -/
theorem size_foldl_insert (earlier definitions : List Definition) :
    ((earlier ++ definitions).foldl insert empty).size = (earlier.foldl insert empty).size +
      (registrations earlier definitions).countP (Event.isNamed · "registry.registered") := by
  induction definitions generalizing earlier with
  | nil => rw [List.append_nil]; rfl
  | cons definition rest ih =>
    rw [List.append_cons, ih, List.foldl_append, List.foldl_cons, List.foldl_nil, size_insert,
      registrations_cons, List.countP_cons, isNamed_registration]
    simp only [mem_names_foldl_insert_empty]
    split
    · simp
    · simp
      omega

/-- An event of registering tells either of a definition that replaces another one or of one that
replaces none. -/
theorem countP_registrations (earlier definitions : List Definition) :
    (registrations earlier definitions).countP (Event.isNamed · "registry.registered") +
        (registrations earlier definitions).countP (Event.isNamed · "registry.replaced") =
      definitions.length := by
  let events := registrations earlier definitions
  have hother : ∀ event ∈ events, event.isNamed "registry.replaced" = true ↔
      decide ¬event.isNamed "registry.registered" = true := by
    intro event hevent
    obtain ⟨position, -, rfl⟩ := List.mem_mapIdx.mp hevent
    rw [isNamed_registration, isNamed_registration]
    split <;> decide
  calc events.countP (Event.isNamed · "registry.registered") +
        events.countP (Event.isNamed · "registry.replaced")
    _ = events.countP (Event.isNamed · "registry.registered") +
        events.countP fun event => ¬event.isNamed "registry.registered" := by
      rw [List.countP_congr hother]
    _ = events.length := (List.length_eq_countP_add_countP _).symm
    _ = definitions.length := length_registrations

/-- The entries of reading a text. -/
theorem entries_ofText (text : String) : (ofText text).entries =
    match parse text with
    | .ok definitions =>
      (.definitionsLoaded definitions.length :: registrations [] definitions).map Event.entry
    | .error _ => [] := by
  rw [ofText, Traced.entries_bind, entries_load, outcome_load]
  cases parse text with
  | error fault => rfl
  | ok definitions => exact congrArg (_ :: ·) (entries_registerAll [] definitions)

/-- A text that is refused leaves no entry. One that is read leaves first an entry at level `INFO`
with the number of its lines and then, in the order of the lines, one entry for the definition
written on each: at level `WARN` if a definition of the same name is written on an earlier line, and
else at level `DEBUG`, with its name and the canonical token of its kind. Nothing is written while a
vector is under way. As many definitions are told to be registered under a new name as the registry
has, and with those that are told to replace another they are as many as the lines. -/
theorem ofText_tells_definitions (text : String) :
    let reading := ofText text
    (∀ fault, reading.outcome = .error fault → reading.entries = []) ∧
    ∀ registry, reading.outcome = .ok registry → ∃ definitions loaded events,
      List.Forall₂ (fun line definition => Written line.toList definition) (Text.lines text)
        definitions ∧
      reading.entries = (loaded :: events).map Event.entry ∧
      loaded.level = .info ∧
      loaded.fields = [("event", .tag "definitions.loaded"),
        ("count", .count (Text.lines text).length)] ∧
      events.length = (Text.lines text).length ∧
      (∀ earlier definition later, definitions = earlier ++ definition :: later →
        ∃ event, events[earlier.length]? = some event ∧
          event.level =
            (if definition.name ∈ earlier.map Definition.name then .warn else .debug) ∧
          event.fields = [("event", .tag (if definition.name ∈ earlier.map Definition.name then
              "registry.replaced" else "registry.registered")),
            ("criterion", .text definition.name), ("kind", .text definition.kind.token)]) ∧
      events.countP (Event.isNamed · "registry.registered") = registry.size ∧
      events.countP (Event.isNamed · "registry.registered") +
        events.countP (Event.isNamed · "registry.replaced") = (Text.lines text).length := by
  intro reading
  have hentries : reading.entries = _ := entries_ofText text
  refine ⟨fun fault hfault => ?_, fun registry hregistry => ?_⟩
  · cases hparse : parse text with
    | error other => rw [hentries, hparse]
    | ok definitions =>
      have hread := ofText_eq_ok_iff.mpr ⟨definitions, hparse, rfl⟩
      rw [hfault] at hread
      contradiction
  · obtain ⟨definitions, hparse, rfl⟩ := ofText_eq_ok_iff.mp hregistry
    have hwritten := parse_eq_ok_iff.mp hparse
    have hlength : (Text.lines text).length = definitions.length := hwritten.length_eq
    rw [hparse] at hentries
    have hsize := size_foldl_insert [] definitions
    refine ⟨definitions, _, _, hwritten, hentries, rfl, by rw [hlength]; rfl,
      length_registrations.trans hlength.symm, ?_, ?_,
      (countP_registrations [] definitions).trans hlength.symm⟩
    · rintro earlier definition later rfl
      refine ⟨definition.registration earlier, ?_, level_registration, fields_registration⟩
      rw [getElem?_registrations, List.getElem?_append_right le_rfl, List.take_left]
      simp
    · rw [List.nil_append] at hsize
      rw [hsize]
      exact (Nat.zero_add _).symm

example : (ofText "Exclusive Mood : mad\nInclusive Mood : sad\n").entries =
    [Event.definitionsLoaded 2, .registered "Mood" .exclusive, .replaced "Mood" .inclusive].map
      Event.entry := by
  decide +kernel

end Registry

end Criteria
