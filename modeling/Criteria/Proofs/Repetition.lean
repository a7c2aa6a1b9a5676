import Criteria.Proofs.Addition
import Criteria.Proofs.Completeness
import Criteria.Proofs.Encoding
import Criteria.Proofs.Protocol

/-!
# When a value is shown twice

A definition file and a list of values give definitions that list each value once, the later ones of
equal values being dropped. The JSON form of a definition is read as it stands, and so it may list a
value twice. Such a definition is kept by the registry like any other.

An inclusive criterion shows each value it holds as often as the value is listed. Nothing else makes
it show a value twice, and `"0"` is never held, so it may be listed any number of times. An
exclusive criterion shows one value in any case. Hence the commands and the lines of the vectors of
a registry repeat no value exactly if no inclusive definition lists one twice, apart from `"0"`.
-/

namespace Criteria

namespace Definition

variable {definition : Definition} {value : String}

/-- A definition as definition files and lists of values give it. -/
inductive Collapsed : Definition → Prop where
  /-- A definition of a definition file. -/
  | file {text : String} {definitions : List Definition} {definition : Definition}
    (hparse : parse text = .ok definitions) (hmem : definition ∈ definitions) :
    Collapsed definition
  /-- A definition with the given values. -/
  | values (kind : Kind) (name : String) (values : List String) :
    Collapsed (ofValues kind name values)

/-- Definition files and lists of values give no value twice. -/
theorem Collapsed.nodup (h : definition.Collapsed) : definition.allowed.Nodup := by
  cases h with
  | file hparse hmem => exact (clean_of_parse hparse definition hmem).nodup
  | values kind name values => exact nodup_eraseDups values

/-! ## What is listed and what is shown -/

/-- A definition that lists no value but `"0"` twice shows none twice. -/
theorem Shows.nodup {values : List String} (h : definition.Shows values)
    (hlisted : definition.kind = .inclusive →
      (definition.allowed.filter fun value => value ≠ noValue).Nodup) : values.Nodup := by
  rw [Shows] at h
  cases hkind : definition.kind with
  | exclusive =>
    rw [hkind] at h
    obtain ⟨value, rfl, -⟩ := h
    exact List.nodup_singleton value
  | inclusive =>
    rw [hkind] at h
    rcases h with rfl | ⟨-, hzero, hvalues⟩
    · exact List.nodup_singleton noValue
    · rw [hvalues]
      refine (List.monotone_filter_right _ fun value hvalue => ?_).nodup (hlisted hkind)
      have hmem : value ∈ values := of_decide_eq_true hvalue
      exact decide_eq_true fun heq => hzero (heq ▸ hmem)

/-- An inclusive criterion shows a value other than `"0"` as often as it is listed. -/
theorem Shows.count_eq {values : List String} (h : definition.Shows values)
    (hkind : definition.kind = .inclusive) (hmem : value ∈ values) (hzero : value ≠ noValue) :
    values.count value = definition.allowed.count value := by
  rw [Shows, hkind] at h
  rcases h with rfl | ⟨-, -, hvalues⟩
  · exact absurd (List.mem_singleton.mp hmem) hzero
  · rw [hvalues]
    exact List.count_filter (decide_eq_true hmem)

/-- A fresh inclusive criterion to which a value is added shows it. -/
theorem mem_values_fresh_after_add (hkind : definition.kind = .inclusive) (hzero : value ≠ noValue)
    (hallowed : value ∈ definition.allowed) :
    value ∈ (definition.fresh.after (.add value)).values := by
  let held : Inclusive := Inclusive.extend ⟨definition, ∅⟩ [value]
  have hafter : definition.fresh.after (.add value) = .inclusive held := by
    have hadd : Inclusive.add ⟨definition, ∅⟩ value = pure held :=
      Inclusive.add_of_allowed hzero hallowed
    rw [fresh, hkind, Criterion.after, Criterion.change?, hadd]
    rfl
  have hvalid : (Criterion.inclusive held).Valid :=
    hafter ▸ Reaches.valid ⟨[.add value], rfl⟩
  rw [hafter, ← hvalid.contains_iff, Inclusive.contains, if_neg hzero,
    Std.ExtTreeSet.contains_iff_mem, Inclusive.mem_held_extend]
  exact .inr (List.mem_singleton_self value)

end Definition

namespace Registry

variable {registry : Registry}

/-- No definition of a registry lists a value twice. -/
def ListsOnce (registry : Registry) : Prop :=
  ∀ definition ∈ registry.definitions, definition.allowed.Nodup

/-- No criterion of a registry shows a value twice, whatever changes were made. -/
def ShowsOnce (registry : Registry) : Prop :=
  ∀ definition ∈ registry.definitions, ∀ criterion, definition.Reaches criterion →
    criterion.values.Nodup

/-- A registry shows no value twice exactly if no inclusive definition lists one twice, apart from
`"0"`. -/
theorem showsOnce_iff :
    registry.ShowsOnce ↔ ∀ definition ∈ registry.definitions, definition.kind = .inclusive →
      (definition.allowed.filter fun value => value ≠ noValue).Nodup := by
  constructor
  · intro h definition hmem hkind
    rw [List.nodup_iff_count_le_one]
    intro value
    by_cases hvalue : value ≠ noValue ∧ value ∈ definition.allowed
    · obtain ⟨hzero, hallowed⟩ := hvalue
      have hreaches : definition.Reaches (definition.fresh.after (.add value)) :=
        ⟨[.add value], rfl⟩
      have hshown := Definition.mem_values_fresh_after_add hkind hzero hallowed
      calc (definition.allowed.filter fun value => value ≠ noValue).count value
        _ = definition.allowed.count value := List.count_filter (by simpa using hzero)
        _ = (definition.fresh.after (.add value)).values.count value :=
          (hreaches.shows.count_eq hkind hshown hzero).symm
        _ ≤ 1 := List.nodup_iff_count_le_one.mp (h definition hmem _ hreaches) value
    · have habsent : value ∉ definition.allowed.filter fun value => value ≠ noValue := by
        simpa [and_comm] using hvalue
      rw [List.count_eq_zero_of_not_mem habsent]
      exact Nat.zero_le 1
  · exact fun h definition hmem criterion hreaches => hreaches.shows.nodup (h definition hmem)

/-- A registry that lists no value twice shows none twice. -/
theorem ListsOnce.showsOnce (h : registry.ListsOnce) : registry.ShowsOnce :=
  showsOnce_iff.mpr fun definition hmem _ => (h definition hmem).filter _

/-- The criteria of a vector drawn from a registry that shows no value twice show none twice. -/
theorem ShowsOnce.nodup_values (h : registry.ShowsOnce) {vector : TestVector}
    (hvector : vector.DrawnFrom registry) {criterion : Criterion}
    (hmem : criterion ∈ vector.criteria) : criterion.values.Nodup := by
  obtain ⟨definition, hdefinition, hreaches⟩ := hvector criterion hmem
  exact h definition hdefinition criterion hreaches

/-- Every definition is read back from its JSON form, also one that lists a value twice. A registry
whose definitions come from definition files or lists of values lists no value twice, and then it
shows none twice. In any registry, an inclusive criterion shows each value other than `"0"` as often
as its definition lists it, however it was changed. So no value is ever shown twice exactly if no
inclusive definition lists one twice, apart from `"0"`, and then neither the commands nor the lines
of any vector drawn from the registry, which give what the criteria show, repeat a value. -/
theorem shows_as_often_as_listed (registry : Registry) :
    (∀ definition, Definition.codec.decode (Definition.codec.encode definition) =
      .ok definition) ∧
    ((∀ definition ∈ registry.definitions, definition.Collapsed) →
      registry.ListsOnce ∧ registry.ShowsOnce) ∧
    (∀ definition ∈ registry.definitions, definition.kind = .inclusive →
      ∀ criterion, definition.Reaches criterion → ∀ value ∈ criterion.values, value ≠ noValue →
        criterion.values.count value = definition.allowed.count value) ∧
    (registry.ShowsOnce ↔ ∀ definition ∈ registry.definitions, definition.kind = .inclusive →
      (definition.allowed.filter fun value => value ≠ noValue).Nodup) ∧
    ∀ vector : TestVector, vector.DrawnFrom registry →
      vector.commands = (vector.criteria.map fun criterion =>
          Command.mk "setCriterionState" (criterion.name :: criterion.values)) ++
        [Command.mk "applyConfigurations" []] ∧
      vector.criterionLines = String.join (vector.criteria.map fun criterion =>
        criterion.name ++ " = " ++ " ".intercalate criterion.values ++ "\n") ∧
      (registry.ShowsOnce → ∀ criterion ∈ vector.criteria, criterion.values.Nodup) := by
  refine ⟨fun definition => (Definition.codec_lawful.roundTrips definition).1, fun hcollapsed => ?_,
    fun definition _ hkind criterion hreaches value hmem hzero =>
      hreaches.shows.count_eq hkind hmem hzero, showsOnce_iff,
    fun vector hvector => ⟨vector.commands_eq, rfl, fun h criterion hmem =>
      h.nodup_values hvector hmem⟩⟩
  have hlists : registry.ListsOnce := fun definition hmem => (hcollapsed definition hmem).nodup
  exact ⟨hlists, hlists.showsOnce⟩

/-- A definition read from JSON lists `red` twice, and the command and the line of a vector that
sets it give `red` twice. -/
theorem shows_repeated_value_of_json :
    let text := "\x7b\"kind\":\"inclusive\",\"name\":\"Colors\"," ++
      "\"allowed_values\":[\"red\",\"green\",\"red\"]\x7d"
    let colors : Definition := ⟨.inclusive, "Colors", ["red", "green", "red"]⟩
    let registry := empty.insert colors
    let red := colors.fresh.after (.raw "red")
    let vector : TestVector := ⟨"v", "nominal", [red]⟩
    Definition.codec.decode text = .ok colors ∧
      (empty.registerAll [colors]).outcome = .ok registry ∧
      (registry.vector "v" "nominal" (some (.ofList [("Colors", "red")]))).outcome = .ok vector ∧
      registry.definitions = #[colors] ∧ ¬colors.allowed.Nodup ∧
      colors.Reaches red ∧ ¬red.values.Nodup ∧ ¬registry.ListsOnce ∧ ¬registry.ShowsOnce ∧
      vector.commands = [⟨"setCriterionState", ["Colors", "red", "red"]⟩,
        ⟨"applyConfigurations", []⟩] ∧
      vector.criterionLines = "Colors = red red\n" := by
  intro text colors registry red vector
  have hmem : colors ∈ registry.definitions := by decide +kernel
  have hreaches : colors.Reaches red := ⟨[.raw "red"], rfl⟩
  have hlisted : ¬colors.allowed.Nodup := by decide
  have hshown : ¬red.values.Nodup := by decide +kernel
  exact ⟨by decide +kernel, outcome_registerAll empty [colors], by decide +kernel,
    by decide +kernel, hlisted, hreaches, hshown, fun h => hlisted (h colors hmem),
    fun h => hshown (h colors hmem red hreaches), by decide +kernel, by decide +kernel⟩

end Registry

end Criteria
