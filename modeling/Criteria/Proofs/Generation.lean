import Criteria.Generation
import Criteria.Proofs.Admission
import Mathlib.Data.List.Forall2

/-!
# What is generated

Generating goes through the definitions in their order, looks the name of each up among the
overrides, and stops at the first text that is refused. Here its outcome is given without the loop:
when it succeeds, which criteria it gives and in which order, and which definition is to blame when
it does not. Names may be defined more than once, and the allowed values are any.

The baseline asks every criterion for `"0"`, so it is generated like a delta that overrides all
names.
-/

namespace Criteria

/-- The text that is asked for under a name: the one that overrides it in a delta, and `"0"` in the
baseline. -/
def requested : Option Overrides → String → Option String
  | none, _ => some noValue
  | some overrides, name => overrides[name]?

/-- Every text that is asked for is admitted by the definitions of the name. -/
def Admissible (definitions : List Definition) (request : String → Option String) : Prop :=
  ∀ definition ∈ definitions, ∀ raw, request definition.name = some raw → definition.Admits raw

/-- The criteria that are asked for, in the order of the definitions. -/
def chosen (definitions : List Definition) (request : String → Option String) : List Criterion :=
  definitions.filterMap fun definition => (request definition.name).map definition.holding

/-- The texts asked of some definitions are admitted if those asked of the first and those asked of
the others are. -/
theorem admissible_cons {definition : Definition} {rest : List Definition}
    {request : String → Option String} :
    Admissible (definition :: rest) request ↔
      (∀ raw, request definition.name = some raw → definition.Admits raw) ∧
        Admissible rest request :=
  List.forall_mem_cons

/-- A definition that nothing is asked of gives no criterion. -/
theorem chosen_cons_of_none {definition : Definition} {request : String → Option String}
    (h : request definition.name = none) (rest : List Definition) :
    chosen (definition :: rest) request = chosen rest request :=
  List.filterMap_cons_none (by rw [h, Option.map_none])

/-- A definition that something is asked of gives the criterion that holds it. -/
theorem chosen_cons_of_some {definition : Definition} {request : String → Option String}
    {raw : String} (h : request definition.name = some raw) (rest : List Definition) :
    chosen (definition :: rest) request = definition.holding raw :: chosen rest request :=
  List.filterMap_cons_some (by rw [h, Option.map_some])

/-- Each definition that something is asked of gives one criterion, which shows what was asked. -/
theorem forall₂_chosen {definitions : List Definition} {request : String → Option String}
    (h : Admissible definitions request) :
    List.Forall₂
      (fun definition criterion => ∃ raw, request definition.name = some raw ∧
        criterion.definition = definition ∧ criterion.Fits ∧
        criterion.values = definition.asked raw)
      (definitions.filter fun definition => (request definition.name).isSome)
      (chosen definitions request) := by
  induction definitions with
  | nil => exact .nil
  | cons definition rest ih =>
    obtain ⟨hfirst, hrest⟩ := admissible_cons.mp h
    cases hraw : request definition.name with
    | none =>
      rw [chosen_cons_of_none hraw, List.filter_cons_of_neg (by simp [hraw])]
      exact ih hrest
    | some raw =>
      have hadmits := hfirst raw hraw
      rw [chosen_cons_of_some hraw, List.filter_cons_of_pos (by simp [hraw])]
      exact .cons ⟨raw, hraw, definition.definition_holding raw, hadmits.reaches_holding.fits,
        hadmits.values_holding⟩ (ih hrest)

/-! ## Deltas -/

/-- A definition that is not overridden is passed over. -/
theorem deltaCriteria_cons_of_none {overrides : Overrides} {definition : Definition}
    (h : overrides[definition.name]? = none) (rest : List Definition) :
    deltaCriteria overrides (definition :: rest) = deltaCriteria overrides rest := by
  rw [deltaCriteria, h]

/-- A definition that is overridden gives a criterion, changed as the text says. -/
theorem deltaCriteria_cons_of_some {overrides : Overrides} {definition : Definition} {raw : String}
    (h : overrides[definition.name]? = some raw) (rest : List Definition) :
    deltaCriteria overrides (definition :: rest) = do
      let criterion ← definition.fresh.applyRaw raw
      let criteria ← deltaCriteria overrides rest
      return criterion :: criteria := by
  rw [deltaCriteria, h]

/-- Overrides that agree on the names of the definitions make the same criteria. -/
theorem deltaCriteria_congr {first second : Overrides} {definitions : List Definition}
    (h : ∀ definition ∈ definitions, first[definition.name]? = second[definition.name]?) :
    deltaCriteria first definitions = deltaCriteria second definitions := by
  induction definitions with
  | nil => rfl
  | cons definition rest ih =>
    obtain ⟨hfirst, hrest⟩ := List.forall_mem_cons.mp h
    rw [deltaCriteria, deltaCriteria, hfirst, ih hrest]

/-- A delta is generated exactly when every text is admitted, and gives the criteria asked for. -/
theorem outcome_deltaCriteria_eq_ok_iff {overrides : Overrides} {definitions : List Definition}
    {criteria : List Criterion} :
    (deltaCriteria overrides definitions).outcome = .ok criteria ↔
      Admissible definitions (requested overrides) ∧
        criteria = chosen definitions (requested overrides) := by
  induction definitions generalizing criteria with
  | nil => simp [deltaCriteria, Admissible, chosen, eq_comm]
  | cons definition rest ih =>
    cases hraw : requested overrides definition.name with
    | none =>
      rw [deltaCriteria_cons_of_none hraw, ih, admissible_cons, chosen_cons_of_none hraw, hraw]
      simp
    | some raw =>
      rw [deltaCriteria_cons_of_some hraw, admissible_cons, chosen_cons_of_some hraw, hraw]
      simp only [Traced.outcome_bind_eq_ok_iff, Definition.outcome_applyRaw_eq_ok_iff, ih,
        Traced.outcome_pure, Except.ok.injEq, Option.some.injEq]
      grind

/-- A delta is refused for its first definition, or that one is content and the others refuse. -/
theorem outcome_deltaCriteria_cons_eq_error_iff {overrides : Overrides} {definition : Definition}
    {rest : List Definition} {fault : Fault} :
    (deltaCriteria overrides (definition :: rest)).outcome = .error fault ↔
      (∃ raw value, requested overrides definition.name = some raw ∧
        definition.Offends raw value ∧ fault = .invalidValue definition.name value) ∨
      (∀ raw, requested overrides definition.name = some raw → definition.Admits raw) ∧
        (deltaCriteria overrides rest).outcome = .error fault := by
  cases hraw : requested overrides definition.name with
  | none =>
    rw [deltaCriteria_cons_of_none hraw]
    simp
  | some raw =>
    rw [deltaCriteria_cons_of_some hraw, Traced.outcome_bind_eq_error_iff,
      Definition.outcome_applyRaw_eq_error_iff]
    simp [Definition.outcome_applyRaw_eq_ok_iff, Traced.outcome_map_eq_error_iff]

/-- A delta is refused for the first definition, in their order, that offends the text asked of
it. -/
theorem outcome_deltaCriteria_eq_error_iff {overrides : Overrides} {definitions : List Definition}
    {fault : Fault} :
    (deltaCriteria overrides definitions).outcome = .error fault ↔
      ∃ before definition after raw value, definitions = before ++ definition :: after ∧
        Admissible before (requested overrides) ∧ requested overrides definition.name = some raw ∧
        definition.Offends raw value ∧ fault = .invalidValue definition.name value := by
  induction definitions with
  | nil => simp [deltaCriteria]
  | cons definition rest ih =>
    rw [outcome_deltaCriteria_cons_eq_error_iff, ih]
    constructor
    · rintro (⟨raw, value, hblame⟩ |
        ⟨hadmits, before, blamed, after, raw, value, rfl, hbefore, hblame⟩)
      · exact ⟨[], definition, rest, raw, value, rfl, nofun, hblame⟩
      · exact ⟨definition :: before, blamed, after, raw, value, rfl,
          admissible_cons.mpr ⟨hadmits, hbefore⟩, hblame⟩
    · rintro ⟨_ | ⟨first, before⟩, blamed, after, raw, value, hsplit, hbefore, hblame⟩
      · obtain ⟨rfl, rfl⟩ := List.cons.inj hsplit
        exact .inl ⟨raw, value, hblame⟩
      · obtain ⟨rfl, rfl⟩ := List.cons.inj hsplit
        obtain ⟨hfirst, hbefore⟩ := admissible_cons.mp hbefore
        exact .inr ⟨hfirst, before, blamed, after, raw, value, rfl, hbefore, hblame⟩

/-! ## Vectors of either sort -/

/-- What is reported around a delta does not change what comes of it. -/
theorem outcome_generateCriteria_some (definitions : List Definition) (overrides : Overrides) :
    (generateCriteria definitions (some overrides)).outcome =
      (deltaCriteria overrides definitions).outcome := by
  change ((deltaCriteria overrides definitions) >>= fun criteria =>
    Traced.emit (.vectorGenerated criteria.length false) >>= fun _ => pure criteria).outcome = _
  cases h : (deltaCriteria overrides definitions).outcome with
  | error fault => rw [Traced.bind_of_error h]
  | ok criteria => rw [Traced.bind_of_ok h]; rfl

/-- `"0"` is one word. -/
theorem words_noValue : Text.words noValue = [noValue] := by decide +kernel

/-- There is no white space around `"0"`. -/
theorem trim_noValue : Text.trim noValue = noValue := by decide +kernel

namespace Definition

/-- A fresh criterion that is reset holds what `"0"` asks for. -/
theorem reset_fresh (definition : Definition) :
    definition.fresh.reset = definition.holding noValue := by
  cases hkind : definition.kind with
  | exclusive =>
    rw [holding_of_exclusive hkind, trim_noValue, fresh, hkind]
    rfl
  | inclusive =>
    rw [holding_of_inclusive hkind, words_noValue, if_pos (List.mem_singleton_self noValue), fresh,
      hkind]
    rfl

/-- Every definition admits `"0"`. -/
theorem admits_noValue (definition : Definition) : definition.Admits noValue := by
  cases hkind : definition.kind with
  | exclusive => exact (admits_iff_of_exclusive hkind).mpr (.inl trim_noValue)
  | inclusive =>
    rw [admits_iff_of_inclusive hkind, words_noValue]
    exact ⟨List.cons_ne_nil _ _, .inl (List.mem_singleton_self noValue)⟩

end Definition

/-- The baseline holds the criteria that `"0"` under every name asks for. -/
theorem baselineCriteria_eq_chosen (definitions : List Definition) :
    baselineCriteria definitions = chosen definitions (requested none) := by
  simp only [baselineCriteria, chosen, requested, Option.map_some, List.filterMap_eq_map',
    Definition.reset_fresh]

/-- What the baseline asks for is admitted. -/
theorem admissible_requested_none (definitions : List Definition) :
    Admissible definitions (requested none) := by
  intro definition _ raw hraw
  obtain rfl := Option.some.inj hraw
  exact definition.admits_noValue

/-- A vector is generated exactly when every text is admitted, and holds the criteria asked for. -/
theorem outcome_generateCriteria_eq_ok_iff {definitions : List Definition}
    {overrides : Option Overrides} {criteria : List Criterion} :
    (generateCriteria definitions overrides).outcome = .ok criteria ↔
      Admissible definitions (requested overrides) ∧
        criteria = chosen definitions (requested overrides) := by
  cases overrides with
  | some overrides => rw [outcome_generateCriteria_some, outcome_deltaCriteria_eq_ok_iff]
  | none =>
    have houtcome : (generateCriteria definitions none).outcome =
        .ok (chosen definitions (requested none)) := by
      rw [← baselineCriteria_eq_chosen]
      rfl
    rw [houtcome, Except.ok.injEq, eq_comm]
    exact (and_iff_right (admissible_requested_none definitions)).symm

/-- A delta is generated exactly when each definition admits the text that overrides its name, if
there is one. It then holds one criterion for each definition that is overridden, in the order of
the definitions, which is of that definition and shows what the text asks for. Otherwise it is
refused for the first definition, in that order, that does not admit its text, and the fault names
that definition and the value that offends. Overrides of other names make no difference. -/
theorem generateCriteria_delta_iff (definitions : List Definition) (overrides : Overrides) :
    ((∃ criteria, (generateCriteria definitions (some overrides)).outcome = .ok criteria) ↔
      ∀ definition ∈ definitions, ∀ raw, overrides[definition.name]? = some raw →
        definition.Admits raw) ∧
    (∀ criteria, (generateCriteria definitions (some overrides)).outcome = .ok criteria →
      List.Forall₂
        (fun definition criterion => ∃ raw, overrides[definition.name]? = some raw ∧
          criterion.definition = definition ∧ criterion.Fits ∧
          criterion.values = definition.asked raw)
        (definitions.filter fun definition => overrides.contains definition.name) criteria) ∧
    (∀ fault, (generateCriteria definitions (some overrides)).outcome = .error fault ↔
      ∃ before definition after raw value, definitions = before ++ definition :: after ∧
        (∀ earlier ∈ before, ∀ raw, overrides[earlier.name]? = some raw → earlier.Admits raw) ∧
        overrides[definition.name]? = some raw ∧ ¬definition.Admits raw ∧
        definition.Offends raw value ∧ fault = .invalidValue definition.name value) ∧
    ∀ others : Overrides,
      (∀ definition ∈ definitions, others[definition.name]? = overrides[definition.name]?) →
      (generateCriteria definitions (some others)).outcome =
        (generateCriteria definitions (some overrides)).outcome := by
  refine ⟨⟨?_, ?_⟩, ?_, ?_, ?_⟩
  · rintro ⟨criteria, h⟩
    exact (outcome_generateCriteria_eq_ok_iff.mp h).1
  · intro h
    exact ⟨_, outcome_generateCriteria_eq_ok_iff.mpr ⟨h, rfl⟩⟩
  · intro criteria h
    obtain ⟨hadmissible, rfl⟩ := outcome_generateCriteria_eq_ok_iff.mp h
    simpa only [Std.ExtTreeMap.contains_eq_isSome_getElem?, requested] using
      forall₂_chosen hadmissible
  · intro fault
    rw [outcome_generateCriteria_some, outcome_deltaCriteria_eq_error_iff]
    constructor
    · rintro ⟨before, definition, after, raw, value, hsplit, hbefore, hraw, hoffends, hfault⟩
      exact ⟨before, definition, after, raw, value, hsplit, hbefore, hraw, hoffends.not_admits,
        hoffends, hfault⟩
    · rintro ⟨before, definition, after, raw, value, hsplit, hbefore, hraw, -, hoffends, hfault⟩
      exact ⟨before, definition, after, raw, value, hsplit, hbefore, hraw, hoffends, hfault⟩
  · intro others h
    rw [outcome_generateCriteria_some, outcome_generateCriteria_some, deltaCriteria_congr h]

example :
    let colors : Definition := ⟨.inclusive, "Colors", ["red", "green"]⟩
    (generateCriteria [colors, colors] (some (.ofList [("Colors", "purple 0")]))).outcome.map
      (List.map Criterion.values) = .ok [["0"], ["0"]] := by decide +kernel

end Criteria
