import Criteria.Proofs.Deltas
import Criteria.Proofs.Protocol
import Criteria.TestSuite

/-!
# Suites are generated as a whole

The vectors of a suite are generated case by case, and the first case that fails ends it all. What a
case gives does not depend on the others, so a suite gives what its cases give one by one, in their
order, or it gives no vector at all and the fault of the first case that fails. The baseline is
never refused; a delta is refused for the first definition, in the order of registration, that does
not admit the text asked of it. No command is sent for a suite of which a case fails, not even for
the cases before that one.
-/

namespace Criteria

/-! ## One computation after another -/

namespace Traced

variable {α β : Type} {step : α → Traced β}

/-- What is done inside a vector ends as it would outside. -/
theorem outcome_within (vector : String) (computation : Traced α) :
    (within vector computation).outcome = computation.outcome := rfl

/-- Computations in a row give a value each, or none. -/
theorem outcome_mapM_eq_ok_iff {items : List α} {results : List β} :
    (items.mapM step).outcome = .ok results ↔
      List.Forall₂ (fun item result => (step item).outcome = .ok result) items results := by
  induction items generalizing results with
  | nil => cases results <;> simp
  | cons item rest ih =>
    simp only [List.mapM_cons, outcome_bind_eq_ok_iff, ih, outcome_pure, List.forall₂_cons_left_iff,
      Except.ok.injEq]
    grind

/-- Computations in a row are stopped by the first that is stopped. -/
theorem outcome_mapM_eq_error_iff {items : List α} {fault : Fault} :
    (items.mapM step).outcome = .error fault ↔
      ∃ before item after, items = before ++ item :: after ∧
        (∀ earlier ∈ before, ∃ result, (step earlier).outcome = .ok result) ∧
        (step item).outcome = .error fault := by
  induction items with
  | nil => simp
  | cons item rest ih =>
    simp only [List.mapM_cons, bind_pure_comp, outcome_bind_eq_error_iff, outcome_map_eq_error_iff,
      ih]
    constructor
    · rintro (hfirst | ⟨result, hfirst, before, blamed, after, rfl, hbefore, hblame⟩)
      · exact ⟨[], item, rest, rfl, nofun, hfirst⟩
      · exact ⟨item :: before, blamed, after, rfl,
          List.forall_mem_cons.mpr ⟨⟨result, hfirst⟩, hbefore⟩, hblame⟩
    · rintro ⟨_ | ⟨first, before⟩, blamed, after, hsplit, hbefore, hblame⟩
      · obtain ⟨rfl, rfl⟩ := List.cons.inj hsplit
        exact .inl hblame
      · obtain ⟨rfl, rfl⟩ := List.cons.inj hsplit
        obtain ⟨⟨result, hfirst⟩, hbefore⟩ := List.forall_mem_cons.mp hbefore
        exact .inr ⟨result, hfirst, before, blamed, after, rfl, hbefore, hblame⟩

/-- Computations in a row come to an end exactly when each does. -/
theorem exists_outcome_mapM_iff {items : List α} :
    (∃ results, (items.mapM step).outcome = .ok results) ↔
      ∀ item ∈ items, ∃ result, (step item).outcome = .ok result := by
  constructor
  · rintro ⟨results, hresults⟩
    have hall := outcome_mapM_eq_ok_iff.mp hresults
    clear hresults
    induction hall with
    | nil => exact nofun
    | cons hfirst _ ih => exact List.forall_mem_cons.mpr ⟨⟨_, hfirst⟩, ih⟩
  · intro hall
    cases houtcome : (items.mapM step).outcome with
    | ok results => exact ⟨results, rfl⟩
    | error fault =>
      obtain ⟨before, item, after, rfl, -, hblame⟩ := outcome_mapM_eq_error_iff.mp houtcome
      obtain ⟨result, hresult⟩ := hall item (List.mem_append_right _ List.mem_cons_self)
      rw [hresult] at hblame
      contradiction

/-- Some computations and then some others give the values of both, or the fault of the first list,
or else that of the second. -/
theorem outcome_mapM_append (first second : List α) :
    ((first ++ second).mapM step).outcome =
      (first.mapM step).outcome.bind fun results =>
        (second.mapM step).outcome.map (results ++ ·) := by
  rw [List.mapM_append]
  cases hfirst : (first.mapM step).outcome with
  | error fault => rw [bind_of_error hfirst]; rfl
  | ok results =>
    rw [bind_of_ok hfirst]
    exact outcome_map (results ++ ·) (second.mapM step)

end Traced

/-! ## One case -/

/-- A registry refuses some overrides with the fault of the first definition, in the order of
registration, that does not admit the text asked of it. The fault names the definition and the value
that offends. -/
inductive Registry.Refuses (registry : Registry) : Option Overrides → Fault → Prop where
  | delta {overrides : Overrides} {before after : List Definition} {definition : Definition}
    {raw value : String} (split : registry.definitions.toList = before ++ definition :: after)
    (admitted : ∀ earlier ∈ before, ∀ raw, overrides[earlier.name]? = some raw →
      earlier.Admits raw)
    (asked : overrides[definition.name]? = some raw) (offends : definition.Offends raw value) :
    Registry.Refuses registry (some overrides) (.invalidValue definition.name value)

namespace Registry

variable {registry : Registry} {overrides : Option Overrides} {fault : Fault}

/-- What a registry refuses is a value of one of its definitions, not admitted by it. -/
theorem Refuses.exists_offends (h : registry.Refuses overrides fault) :
    ∃ definition ∈ registry.definitions, ∃ raw value,
      requested overrides definition.name = some raw ∧ ¬definition.Admits raw ∧
        definition.Offends raw value ∧ fault = .invalidValue definition.name value := by
  obtain ⟨hsplit, -, hasked, hoffends⟩ := h
  refine ⟨_, ?_, _, _, hasked, hoffends.not_admits, hoffends, rfl⟩
  rw [← Array.mem_toList_iff, hsplit]
  exact List.mem_append_right _ List.mem_cons_self

/-- A vector is refused with a fault exactly when the registry refuses the overrides with it. -/
theorem outcome_vector_eq_error_iff {name testType : String} :
    (registry.vector name testType overrides).outcome = .error fault ↔
      registry.Refuses overrides fault := by
  have hvector : (registry.vector name testType overrides).outcome = .error fault ↔
      (generateCriteria registry.definitions.toList overrides).outcome = .error fault := by
    rw [vector, bind_pure_comp, Traced.outcome_map_eq_error_iff]
  rw [hvector]
  cases overrides with
  | none =>
    -- The baseline asks for nothing that a definition could refuse.
    obtain ⟨criteria, hcriteria⟩ : ∃ criteria,
        (generateCriteria registry.definitions.toList none).outcome = .ok criteria :=
      ⟨_, rfl⟩
    rw [hcriteria]
    refine iff_of_false (fun hfault => ?_) fun hrefuses => ?_
    · contradiction
    · cases hrefuses
  | some overrides =>
    rw [outcome_generateCriteria_some, outcome_deltaCriteria_eq_error_iff]
    constructor
    · rintro ⟨before, definition, after, raw, value, hsplit, hbefore, hraw, hoffends, rfl⟩
      exact .delta hsplit hbefore hraw hoffends
    · rintro ⟨hsplit, hbefore, hraw, hoffends⟩
      exact ⟨_, _, _, _, _, hsplit, hbefore, hraw, hoffends, rfl⟩

end Registry

namespace TestCase

variable {registry : Registry} {testCase : TestCase} {vector : TestVector} {fault : Fault}

/-- A case generates the vector that the registry generates from its overrides. -/
theorem outcome_generate_eq_ok_iff :
    (testCase.generate registry).outcome = .ok vector ↔
      (registry.vector testCase.name testCase.testType testCase.criteria).outcome = .ok vector := by
  rw [generate, Traced.outcome_within, Traced.mapFault]
  cases (registry.vector testCase.name testCase.testType testCase.criteria).outcome <;>
    simp [Except.mapError]

/-- A case fails exactly when the registry refuses its overrides, and the fault names the case. -/
theorem outcome_generate_eq_error_iff :
    (testCase.generate registry).outcome = .error fault ↔
      ∃ source, registry.Refuses testCase.criteria source ∧
        fault = .testCase testCase.name source := by
  have hrefuses (source : Fault) : registry.Refuses testCase.criteria source ↔
      (registry.vector testCase.name testCase.testType testCase.criteria).outcome =
        .error source := Registry.outcome_vector_eq_error_iff.symm
  simp only [hrefuses]
  rw [generate, Traced.outcome_within, Traced.mapFault]
  cases (registry.vector testCase.name testCase.testType testCase.criteria).outcome <;>
    simp [Except.mapError, eq_comm]

/-- A vector is what a case describes: it has the name and the test type of the case; without
overrides it has every definition of the registry, reset, and with overrides those definitions that
are overridden, each showing what the text asks for, in both cases in the order of registration. -/
structure Describes (testCase : TestCase) (registry : Registry) (vector : TestVector) : Prop where
  name : vector.name = testCase.name
  testType : vector.testType = testCase.testType
  baseline : testCase.criteria = none →
    vector.criteria = registry.definitions.toList.map fun definition => definition.fresh.reset
  delta : ∀ overrides, testCase.criteria = some overrides → List.Forall₂
    (fun definition criterion => ∃ raw, overrides[definition.name]? = some raw ∧
      criterion.definition = definition ∧ criterion.values = definition.asked raw)
    (registry.definitions.toList.filter fun definition => overrides.contains definition.name)
    vector.criteria

/-- The vector that a case generates is the one that it describes. -/
theorem describes_of_generate (h : (testCase.generate registry).outcome = .ok vector) :
    testCase.Describes registry vector := by
  obtain ⟨hadmissible, rfl⟩ :=
    Registry.outcome_vector_eq_ok_iff.mp (outcome_generate_eq_ok_iff.mp h)
  refine ⟨rfl, rfl, fun hnone => ?_, fun overrides hsome => ?_⟩
  · rw [hnone]
    exact (baselineCriteria_eq_chosen _).symm
  · rw [hsome] at hadmissible ⊢
    have hchosen := forall₂_chosen hadmissible
    simp only [requested, ← Std.ExtTreeMap.contains_eq_isSome_getElem?] at hchosen
    refine hchosen.imp fun definition criterion hasked => ?_
    obtain ⟨raw, hraw, hdefinition, -, hvalues⟩ := hasked
    exact ⟨raw, hraw, hdefinition, hvalues⟩

end TestCase

/-! ## Suites -/

namespace TestSuite

/-- The cases of a suite and then those of another one. -/
def append (suite other : TestSuite) : TestSuite := ⟨suite.cases ++ other.cases⟩

/-- Generate the vectors of a suite and push them. -/
def push (registry : Registry) (daemon : Daemon) (suite : TestSuite) : Push (List PushReport) := do
  let vectors ← Push.ofTraced (suite.generateAll registry)
  TestVector.pushAll daemon vectors

variable {registry : Registry} {suite : TestSuite} {fault : Fault}

/-- Two suites in a row give the vectors of both, or the fault of the first, or else that of the
second. -/
theorem outcome_generateAll_append (registry : Registry) (suite other : TestSuite) :
    ((suite.append other).generateAll registry).outcome =
      match (suite.generateAll registry).outcome, (other.generateAll registry).outcome with
      | .ok vectors, .ok more => .ok (vectors ++ more)
      | .error fault, _ => .error fault
      | .ok _, .error fault => .error fault := by
  rw [append, generateAll, Traced.outcome_mapM_append, ← generateAll, ← generateAll]
  cases (suite.generateAll registry).outcome with
  | error fault => rfl
  | ok vectors => cases (other.generateAll registry).outcome <;> rfl

/-- A suite fails exactly when one of its cases does, behind some that generate, and the fault names
that case. -/
theorem outcome_generateAll_eq_error_iff :
    (suite.generateAll registry).outcome = .error fault ↔
      ∃ before testCase after source, suite.cases = before ++ testCase :: after ∧
        (∀ earlier ∈ before, ∃ vector, (earlier.generate registry).outcome = .ok vector) ∧
        registry.Refuses testCase.criteria source ∧ fault = .testCase testCase.name source := by
  rw [generateAll, Traced.outcome_mapM_eq_error_iff]
  simp only [TestCase.outcome_generate_eq_error_iff, exists_and_left]

/-- The registry generates each vector of a suite. -/
theorem generates_of_generateAll {vectors : List TestVector}
    (h : (suite.generateAll registry).outcome = .ok vectors) :
    ∀ vector ∈ vectors, registry.Generates vector := by
  have hcases := (Traced.outcome_mapM_eq_ok_iff.mp h).imp fun testCase vector hvector =>
    And.intro (show registry.Generates vector from
      ⟨_, _, _, TestCase.outcome_generate_eq_ok_iff.mp hvector⟩) hvector
  exact ((List.forall₂_and_left _ _).mp (List.Forall₂.flip hcases)).1

/-- When a suite fails nothing is sent, whatever the daemon. -/
theorem push_of_error (h : (suite.generateAll registry).outcome = .error fault) (daemon : Daemon)
    (past : List Command) :
    (suite.push registry daemon past).sent = [] ∧
      (suite.push registry daemon past).traced.outcome = .error fault := by
  have hgenerated : (Push.ofTraced (suite.generateAll registry) past).traced.outcome =
      .error fault := h
  rw [push, Push.bind_of_error hgenerated]
  exact ⟨rfl, rfl⟩

/-- When a suite is generated its vectors are pushed. -/
theorem push_of_ok {vectors : List TestVector}
    (h : (suite.generateAll registry).outcome = .ok vectors) (daemon : Daemon)
    (past : List Command) :
    (suite.push registry daemon past).sent = (TestVector.pushAll daemon vectors past).sent ∧
      (suite.push registry daemon past).traced.outcome =
        (TestVector.pushAll daemon vectors past).traced.outcome := by
  have hgenerated : (Push.ofTraced (suite.generateAll registry) past).traced.outcome =
      .ok vectors := h
  rw [push, Push.bind_of_ok hgenerated]
  simp [Push.ofTraced]

/-- A suite is generated exactly when each of its cases is, and then gives the vector of each case,
in their order, which is the one that the case gives alone and describes. Otherwise it fails for the
first case that fails: the fault names that case and carries the fault with which the registry
refuses the overrides of the case, that is the value that offends a definition of the registry. Two
suites in a row give the vectors of both, or fail as the first one does, or else as the second one
does. When a suite fails nothing is pushed, and otherwise its vectors are. -/
theorem generateAll_all_or_nothing (registry : Registry) (suite : TestSuite) :
    let outcome := (suite.generateAll registry).outcome
    ((∃ vectors, outcome = .ok vectors) ↔
      ∀ testCase ∈ suite.cases, ∃ vector, (testCase.generate registry).outcome = .ok vector) ∧
    (∀ vectors, outcome = .ok vectors → List.Forall₂
      (fun testCase vector => (testCase.generate registry).outcome = .ok vector ∧
        testCase.Describes registry vector) suite.cases vectors) ∧
    (∀ fault, outcome = .error fault ↔ ∃ before testCase after source,
      suite.cases = before ++ testCase :: after ∧
      (∀ earlier ∈ before, ∃ vector, (earlier.generate registry).outcome = .ok vector) ∧
      registry.Refuses testCase.criteria source ∧ fault = .testCase testCase.name source) ∧
    (∀ fault, outcome = .error fault → ∃ definition ∈ registry.definitions, ∃ raw value,
      ¬definition.Admits raw ∧ definition.Offends raw value ∧
        fault.root = .invalidValue definition.name value) ∧
    (∀ other : TestSuite, ((suite.append other).generateAll registry).outcome =
      match outcome, (other.generateAll registry).outcome with
      | .ok vectors, .ok more => .ok (vectors ++ more)
      | .error fault, _ => .error fault
      | .ok _, .error fault => .error fault) ∧
    ∀ daemon past,
      let run := suite.push registry daemon past
      match outcome with
      | .error fault => run.sent = [] ∧ run.traced.outcome = .error fault
      | .ok vectors => run.sent = (TestVector.pushAll daemon vectors past).sent ∧
        run.traced.outcome = (TestVector.pushAll daemon vectors past).traced.outcome := by
  intro outcome
  refine ⟨Traced.exists_outcome_mapM_iff, ?_, ?_, ?_, ?_, ?_⟩
  · intro vectors hvectors
    exact (Traced.outcome_mapM_eq_ok_iff.mp hvectors).imp fun testCase vector hvector =>
      ⟨hvector, TestCase.describes_of_generate hvector⟩
  · intro fault
    refine Traced.outcome_mapM_eq_error_iff.trans ?_
    simp only [TestCase.outcome_generate_eq_error_iff, exists_and_left]
  · intro fault hfault
    obtain ⟨before, testCase, after, -, -, hblame⟩ := Traced.outcome_mapM_eq_error_iff.mp hfault
    obtain ⟨source, hrefuses, rfl⟩ := TestCase.outcome_generate_eq_error_iff.mp hblame
    obtain ⟨definition, hmem, raw, value, -, hadmits, hoffends, rfl⟩ := hrefuses.exists_offends
    exact ⟨definition, hmem, raw, value, hadmits, hoffends, rfl⟩
  · intro other
    exact outcome_generateAll_append registry suite other
  · intro daemon past run
    cases hgenerated : outcome with
    | error fault => exact push_of_error hgenerated daemon past
    | ok vectors => exact push_of_ok hgenerated daemon past

end TestSuite

end Criteria
