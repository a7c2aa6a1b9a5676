import Criteria.Proofs.States

/-!
# What a text makes of a fresh criterion

Whether a definition admits a text, what a fresh criterion holds once it has been changed as an
admitted text says, and which value is named in the refusal of any other text are stated here
without the operations. The two kinds of criteria read a text differently: an exclusive one takes it
as one value, without the white space around it, and an inclusive one takes its words. `"0"` among
the words decides, so that a text may be admitted although a word of it is not allowed.
-/

namespace Criteria.Definition

/-- The text means something for a fresh criterion: `"0"` or an allowed value if the criterion is
exclusive; if it is inclusive some words, of which one is `"0"` or all are allowed. -/
def Admits (definition : Definition) (raw : String) : Prop :=
  match definition.kind with
  | .exclusive => Text.trim raw = noValue ∨ Text.trim raw ∈ definition.allowed
  | .inclusive => Text.words raw ≠ [] ∧
      (noValue ∈ Text.words raw ∨ ∀ word ∈ Text.words raw, word ∈ definition.allowed)

/-- The value that is named when a text is refused. -/
inductive Offends (definition : Definition) (raw : String) : String → Prop where
  /-- The text without the white space around it is no value of an exclusive criterion. -/
  | trimmed (hkind : definition.kind = .exclusive) (hzero : Text.trim raw ≠ noValue)
    (hvalue : Text.trim raw ∉ definition.allowed) : Offends definition raw (Text.trim raw)
  /-- The text has no words, and is named as it stands. -/
  | blank (hkind : definition.kind = .inclusive) (hblank : Text.words raw = []) :
    Offends definition raw raw
  /-- A word is not allowed, those before it are, and none is `"0"`. -/
  | word {before after : List String} {word : String} (hkind : definition.kind = .inclusive)
    (hwords : Text.words raw = before ++ word :: after) (hzero : noValue ∉ Text.words raw)
    (hbefore : ∀ earlier ∈ before, earlier ∈ definition.allowed)
    (hword : word ∉ definition.allowed) : Offends definition raw word

/-- The values that an admitted text asks for. -/
def asked (definition : Definition) (raw : String) : List String :=
  match definition.kind with
  | .exclusive => [Text.trim raw]
  | .inclusive =>
    if noValue ∈ Text.words raw then [noValue]
    else definition.allowed.filter fun value => value ∈ Text.words raw

/-- The criterion that holds what an admitted text asks for. -/
def holding (definition : Definition) (raw : String) : Criterion :=
  match definition.kind with
  | .exclusive => .exclusive ⟨definition, Text.trim raw⟩
  | .inclusive => .inclusive ⟨definition,
      if noValue ∈ Text.words raw then ∅
      else (∅ : Std.ExtTreeSet String).insertMany (Text.words raw)⟩

variable {definition : Definition} {raw value : String}

/-! ## What is meant, kind by kind -/

/-- An exclusive definition admits a text that is `"0"` or an allowed value. -/
theorem admits_iff_of_exclusive (hkind : definition.kind = .exclusive) :
    definition.Admits raw ↔ Text.trim raw = noValue ∨ Text.trim raw ∈ definition.allowed := by
  rw [Admits, hkind]

/-- An inclusive definition admits a text of which some word is `"0"` or all words are allowed. -/
theorem admits_iff_of_inclusive (hkind : definition.kind = .inclusive) :
    definition.Admits raw ↔ Text.words raw ≠ [] ∧
      (noValue ∈ Text.words raw ∨ ∀ word ∈ Text.words raw, word ∈ definition.allowed) := by
  rw [Admits, hkind]

/-- Of an exclusive criterion a text asks for itself. -/
theorem holding_of_exclusive (hkind : definition.kind = .exclusive) (raw : String) :
    definition.holding raw = .exclusive ⟨definition, Text.trim raw⟩ := by
  rw [holding, hkind]

/-- Of an inclusive criterion a text asks for its words, or for nothing. -/
theorem holding_of_inclusive (hkind : definition.kind = .inclusive) (raw : String) :
    definition.holding raw = .inclusive ⟨definition,
      if noValue ∈ Text.words raw then ∅
      else (∅ : Std.ExtTreeSet String).insertMany (Text.words raw)⟩ := by
  rw [holding, hkind]

/-! ## The outcome, kind by kind -/

/-- A fresh exclusive criterion takes a text as one value. -/
theorem outcome_applyRaw_of_exclusive (hkind : definition.kind = .exclusive) (raw : String) :
    (definition.fresh.applyRaw raw).outcome =
      if Text.trim raw = noValue ∨ Text.trim raw ∈ definition.allowed then
        .ok (.exclusive ⟨definition, Text.trim raw⟩)
      else .error (.invalidValue definition.name (Text.trim raw)) := by
  simp only [fresh, hkind, Criterion.applyRaw, Traced.outcome_map, Exclusive.applyRaw,
    Exclusive.outcome_set, allows, List.contains_iff_mem]
  split <;> rfl

/-- A fresh inclusive criterion takes the words of a text. -/
theorem outcome_applyRaw_of_inclusive (hkind : definition.kind = .inclusive) (raw : String) :
    (definition.fresh.applyRaw raw).outcome =
      if Text.words raw = [] then .error (.invalidValue definition.name raw)
      else if noValue ∈ Text.words raw then .ok (.inclusive ⟨definition, ∅⟩)
      else match (Text.words raw).find? fun word => word ∉ definition.allowed with
        | some word => .error (.invalidValue definition.name word)
        | none => .ok (.inclusive
          ⟨definition, (∅ : Std.ExtTreeSet String).insertMany (Text.words raw)⟩) := by
  have hfind : ((Text.words raw).find? fun word => !definition.allows word) =
      (Text.words raw).find? fun word => word ∉ definition.allowed := by
    simp only [allows, List.contains_eq_mem, decide_not]
  simp only [fresh, hkind, Criterion.applyRaw, Traced.outcome_map, Inclusive.outcome_applyRaw,
    List.isEmpty_iff, List.contains_iff_mem, hfind]
  split
  · rfl
  · split
    · rfl
    · cases (Text.words raw).find? fun word => word ∉ definition.allowed <;> rfl

/-! ## The outcome, by what is admitted -/

/-- A text that is admitted is obeyed. -/
theorem Admits.outcome_applyRaw (h : definition.Admits raw) :
    (definition.fresh.applyRaw raw).outcome = .ok (definition.holding raw) := by
  cases hkind : definition.kind with
  | exclusive =>
    rw [admits_iff_of_exclusive hkind] at h
    rw [holding_of_exclusive hkind, outcome_applyRaw_of_exclusive hkind, if_pos h]
  | inclusive =>
    obtain ⟨hwords, h⟩ := (admits_iff_of_inclusive hkind).mp h
    rw [holding_of_inclusive hkind, outcome_applyRaw_of_inclusive hkind, if_neg hwords]
    by_cases hzero : noValue ∈ Text.words raw
    · simp only [if_pos hzero]
    · have hnone : ((Text.words raw).find? fun word => word ∉ definition.allowed) = none := by
        simpa using h.resolve_left hzero
      simp only [if_neg hzero, hnone]

/-- A text that offends is refused, and the refusal names the value. -/
theorem Offends.outcome_applyRaw (h : definition.Offends raw value) :
    (definition.fresh.applyRaw raw).outcome = .error (.invalidValue definition.name value) := by
  cases h with
  | trimmed hkind hzero hvalue =>
    rw [outcome_applyRaw_of_exclusive hkind, if_neg (not_or.mpr ⟨hzero, hvalue⟩)]
  | blank hkind hblank =>
    rw [outcome_applyRaw_of_inclusive hkind, if_pos hblank]
  | @word before after word hkind hwords hzero hbefore hword =>
    have hne : Text.words raw ≠ [] := by
      rw [hwords]
      exact List.append_ne_nil_of_right_ne_nil _ (List.cons_ne_nil _ _)
    have hfirst : ((Text.words raw).find? fun word => word ∉ definition.allowed) = some value := by
      rw [List.find?_eq_some_iff_append]
      exact ⟨by simpa using hword, before, after, hwords, by simpa using hbefore⟩
    rw [outcome_applyRaw_of_inclusive hkind, if_neg hne, if_neg hzero, hfirst]

/-- A text is admitted or offends. -/
theorem admits_or_offends (definition : Definition) (raw : String) :
    definition.Admits raw ∨ ∃ value, definition.Offends raw value := by
  cases hkind : definition.kind with
  | exclusive =>
    rw [admits_iff_of_exclusive hkind]
    by_cases hvalue : Text.trim raw = noValue ∨ Text.trim raw ∈ definition.allowed
    · exact .inl hvalue
    · obtain ⟨hzero, hvalue⟩ := not_or.mp hvalue
      exact .inr ⟨_, .trimmed hkind hzero hvalue⟩
  | inclusive =>
    rw [admits_iff_of_inclusive hkind]
    by_cases hblank : Text.words raw = []
    · exact .inr ⟨raw, .blank hkind hblank⟩
    by_cases hzero : noValue ∈ Text.words raw
    · exact .inl ⟨hblank, .inl hzero⟩
    cases hfind : (Text.words raw).find? fun word => word ∉ definition.allowed with
    | none => exact .inl ⟨hblank, .inr (by simpa using List.find?_eq_none.mp hfind)⟩
    | some word =>
      obtain ⟨hword, before, after, hwords, hbefore⟩ := List.find?_eq_some_iff_append.mp hfind
      exact .inr ⟨word, .word hkind hwords hzero (by simpa using hbefore) (by simpa using hword)⟩

/-- A text that offends is not admitted. -/
theorem Offends.not_admits (h : definition.Offends raw value) : ¬definition.Admits raw := by
  intro hadmits
  have houtcome := h.outcome_applyRaw
  rw [hadmits.outcome_applyRaw] at houtcome
  contradiction

/-- A fresh criterion is changed by a text exactly when the text is admitted, and then holds what
the text asks for. -/
theorem outcome_applyRaw_eq_ok_iff {criterion : Criterion} :
    (definition.fresh.applyRaw raw).outcome = .ok criterion ↔
      definition.Admits raw ∧ criterion = definition.holding raw := by
  constructor
  · intro h
    rcases definition.admits_or_offends raw with hadmits | ⟨value, hoffends⟩
    · rw [hadmits.outcome_applyRaw] at h
      exact ⟨hadmits, (Except.ok.inj h).symm⟩
    · rw [hoffends.outcome_applyRaw] at h
      contradiction
  · rintro ⟨hadmits, rfl⟩
    exact hadmits.outcome_applyRaw

/-- A fresh criterion refuses a text exactly when the text offends, and names the value. -/
theorem outcome_applyRaw_eq_error_iff {fault : Fault} :
    (definition.fresh.applyRaw raw).outcome = .error fault ↔
      ∃ value, definition.Offends raw value ∧ fault = .invalidValue definition.name value := by
  constructor
  · intro h
    rcases definition.admits_or_offends raw with hadmits | ⟨value, hoffends⟩
    · rw [hadmits.outcome_applyRaw] at h
      contradiction
    · rw [hoffends.outcome_applyRaw] at h
      exact ⟨value, hoffends, (Except.error.inj h).symm⟩
  · rintro ⟨value, hoffends, rfl⟩
    exact hoffends.outcome_applyRaw

/-! ## What is held then -/

/-- The criterion that holds what a text asks for has the definition. -/
theorem definition_holding (definition : Definition) (raw : String) :
    (definition.holding raw).definition = definition := by
  unfold holding
  cases definition.kind <;> rfl

/-- What an admitted text asks for is reached from the fresh criterion. -/
theorem Admits.reaches_holding (h : definition.Admits raw) :
    definition.Reaches (definition.holding raw) := by
  refine ⟨[.raw raw], ?_⟩
  simp only [Criterion.afterAll, List.foldl_cons, List.foldl_nil, Criterion.after,
    Criterion.change?, Option.map_some, h.outcome_applyRaw]

/-- A set that some words were put into holds those words. -/
theorem mem_insertMany_words {words : List String} :
    value ∈ (∅ : Std.ExtTreeSet String).insertMany words ↔ value ∈ words := by
  rw [Std.ExtTreeSet.mem_insertMany_list, List.contains_iff_mem]
  exact or_iff_right Std.ExtTreeSet.not_mem_empty

/-- What an admitted text asks for is shown. -/
theorem Admits.values_holding (h : definition.Admits raw) :
    (definition.holding raw).values = definition.asked raw := by
  cases hkind : definition.kind with
  | exclusive =>
    rw [holding_of_exclusive hkind, asked, hkind]
    rfl
  | inclusive =>
    obtain ⟨hwords, -⟩ := (admits_iff_of_inclusive hkind).mp h
    rw [holding_of_inclusive hkind, asked, hkind]
    by_cases hzero : noValue ∈ Text.words raw
    · simp only [if_pos hzero]
      rfl
    · obtain ⟨word, hword⟩ := List.exists_mem_of_ne_nil _ hwords
      have hset : ¬(Criterion.inclusive
          ⟨definition, (∅ : Std.ExtTreeSet String).insertMany (Text.words raw)⟩).isUnset := by
        intro hunset
        have hempty : (∅ : Std.ExtTreeSet String).insertMany (Text.words raw) = ∅ :=
          Std.ExtTreeSet.isEmpty_iff.mp hunset
        exact Std.ExtTreeSet.not_mem_empty (hempty ▸ mem_insertMany_words.mpr hword)
      simp only [if_neg hzero, Criterion.values_of_not_isUnset hset]
      exact List.filter_congr fun other _ => decide_eq_decide.mpr mem_insertMany_words

end Criteria.Definition
