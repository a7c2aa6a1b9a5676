import Criteria.Criterion

/-!
# The states that a criterion can reach

What each operation gives is stated once. An exclusive criterion holds `"0"` or an allowed value,
and an inclusive one holds only allowed values and never `"0"`. A fresh criterion does so, and every
change keeps it that way, whatever text it is made with and whether or not it is refused. From this
follows what a criterion can show.
-/

namespace Criteria

/-! ## What the operations give -/

namespace Exclusive

/-- An exclusive criterion takes `"0"` and the allowed values. -/
theorem outcome_set (criterion : Exclusive) (value : String) :
    (criterion.set value).outcome =
      if value = noValue ∨ criterion.definition.allows value then
        .ok { criterion with current := value }
      else .error (.invalidValue criterion.definition.name value) := by
  unfold set
  split <;> rfl

end Exclusive

namespace Inclusive

/-- An inclusive criterion takes the allowed values, and `"0"` in order to hold nothing. -/
theorem outcome_add (criterion : Inclusive) (value : String) :
    (criterion.add value).outcome =
      if value = noValue then .ok criterion.reset
      else if criterion.definition.allows value then
        .ok { criterion with held := criterion.held.insert value }
      else .error (.invalidValue criterion.definition.name value) := by
  unfold add
  split
  · rfl
  · split <;> rfl

/-- An inclusive criterion gives up the values it holds, and `"0"` while it holds nothing. -/
theorem outcome_remove (criterion : Inclusive) (value : String) :
    (criterion.remove value).outcome =
      if value = noValue ∧ criterion.held.isEmpty then .ok criterion
      else if criterion.held.contains value then
        .ok { criterion with held := criterion.held.erase value }
      else .error (.notSet criterion.definition.name value) := by
  unfold remove
  split
  · rfl
  · split <;> rfl

/-- An inclusive criterion takes the words of a text if there are any and all are allowed, and holds
nothing if `"0"` is among them. -/
theorem outcome_applyRaw (criterion : Inclusive) (raw : String) :
    (criterion.applyRaw raw).outcome =
      if (Text.words raw).isEmpty then .error (.invalidValue criterion.definition.name raw)
      else if (Text.words raw).contains noValue then .ok criterion.reset
      else match (Text.words raw).find? fun word => !criterion.definition.allows word with
        | some word => .error (.invalidValue criterion.definition.name word)
        | none => .ok { criterion with held := criterion.held.insertMany (Text.words raw) } := by
  unfold applyRaw
  simp only
  split
  · rfl
  · split
    · rfl
    · cases (Text.words raw).find? fun word => !criterion.definition.allows word <;> rfl

end Inclusive

/-! ## Steps -/

/-- What a change can do to a criterion: the definition stays, and every value that is newly held is
allowed by it, or is the `"0"` of an exclusive criterion. -/
inductive Criterion.Step : Criterion → Criterion → Prop where
  /-- An exclusive criterion comes to hold a value. -/
  | exclusive {criterion : Exclusive} {current : String}
      (h : current = criterion.current ∨ current = noValue ∨
        current ∈ criterion.definition.allowed) :
      Step (.exclusive criterion) (.exclusive { criterion with current := current })
  /-- An inclusive criterion comes to hold a set of values. -/
  | inclusive {criterion : Inclusive} {held : Std.ExtTreeSet String}
      (h : ∀ value ∈ held, value ∈ criterion.held ∨
        value ≠ noValue ∧ value ∈ criterion.definition.allowed) :
      Step (.inclusive criterion) (.inclusive { criterion with held := held })

/-- A criterion that stays as it is takes a step. -/
theorem Criterion.Step.refl (criterion : Criterion) : Step criterion criterion := by
  cases criterion with
  | exclusive criterion => exact .exclusive (.inl rfl)
  | inclusive criterion => exact .inclusive fun _ hvalue => .inl hvalue

/-- Taking a value is a step. -/
theorem Exclusive.step_of_set {criterion changed : Exclusive} {value : String}
    (h : (criterion.set value).outcome = .ok changed) :
    Criterion.Step (.exclusive criterion) (.exclusive changed) := by
  rw [outcome_set] at h
  split at h
  · next hvalue =>
    obtain rfl := Except.ok.inj h
    exact .exclusive (.inr (by simpa [Definition.allows] using hvalue))
  · contradiction

/-- Holding nothing is a step. -/
theorem Inclusive.step_reset (criterion : Inclusive) :
    Criterion.Step (.inclusive criterion) (.inclusive criterion.reset) :=
  .inclusive fun _ hvalue => absurd hvalue Std.ExtTreeSet.not_mem_empty

/-- Adding a value is a step. -/
theorem Inclusive.step_of_add {criterion changed : Inclusive} {value : String}
    (h : (criterion.add value).outcome = .ok changed) :
    Criterion.Step (.inclusive criterion) (.inclusive changed) := by
  rw [outcome_add] at h
  split at h
  · obtain rfl := Except.ok.inj h
    exact criterion.step_reset
  · next hzero =>
    split at h
    · next hallowed =>
      obtain rfl := Except.ok.inj h
      refine .inclusive fun other hother => ?_
      rcases Std.ExtTreeSet.mem_insert.mp hother with heq | hheld
      · obtain rfl := Std.LawfulEqCmp.eq_of_compare heq
        exact .inr ⟨hzero, by simpa [Definition.allows] using hallowed⟩
      · exact .inl hheld
    · contradiction

/-- Removing a value is a step. -/
theorem Inclusive.step_of_remove {criterion changed : Inclusive} {value : String}
    (h : (criterion.remove value).outcome = .ok changed) :
    Criterion.Step (.inclusive criterion) (.inclusive changed) := by
  rw [outcome_remove] at h
  split at h
  · obtain rfl := Except.ok.inj h
    exact .refl _
  · split at h
    · obtain rfl := Except.ok.inj h
      exact .inclusive fun other hother => .inl (Std.ExtTreeSet.mem_erase.mp hother).2
    · contradiction

/-- Adding the words of a text is a step. -/
theorem Inclusive.step_of_applyRaw {criterion changed : Inclusive} {raw : String}
    (h : (criterion.applyRaw raw).outcome = .ok changed) :
    Criterion.Step (.inclusive criterion) (.inclusive changed) := by
  rw [outcome_applyRaw] at h
  split at h
  · contradiction
  · split at h
    · obtain rfl := Except.ok.inj h
      exact criterion.step_reset
    · next hzero =>
      split at h
      · contradiction
      · next hallowed =>
        obtain rfl := Except.ok.inj h
        refine .inclusive fun value hvalue => ?_
        rcases Std.ExtTreeSet.mem_insertMany_list.mp hvalue with hheld | hword
        · exact .inl hheld
        · rw [List.contains_iff_mem] at hword hzero
          refine .inr ⟨fun heq => hzero (heq ▸ hword), ?_⟩
          simpa [Definition.allows] using List.find?_eq_none.mp hallowed value hword

namespace Criterion

/-- A change that is offered and not refused is a step. -/
theorem step_of_change? {criterion changed : Criterion} {change : Change}
    {computation : Traced Criterion} (hchange : criterion.change? change = some computation)
    (h : computation.outcome = .ok changed) : Step criterion changed := by
  cases criterion with
  | exclusive criterion =>
    cases change with
    | raw text =>
      obtain rfl := Option.some.inj hchange
      obtain ⟨value, hvalue, rfl⟩ := Traced.outcome_map_eq_ok_iff.mp h
      exact Exclusive.step_of_set hvalue
    | reset =>
      obtain rfl := Option.some.inj hchange
      obtain rfl := Except.ok.inj h
      exact .exclusive (.inr (.inl rfl))
    | set value =>
      obtain rfl := Option.some.inj hchange
      obtain ⟨value, hvalue, rfl⟩ := Traced.outcome_map_eq_ok_iff.mp h
      exact Exclusive.step_of_set hvalue
    | add value => contradiction
    | remove value => contradiction
  | inclusive criterion =>
    cases change with
    | raw text =>
      obtain rfl := Option.some.inj hchange
      obtain ⟨value, hvalue, rfl⟩ := Traced.outcome_map_eq_ok_iff.mp h
      exact Inclusive.step_of_applyRaw hvalue
    | reset =>
      obtain rfl := Option.some.inj hchange
      obtain rfl := Except.ok.inj h
      exact criterion.step_reset
    | set value => contradiction
    | add value =>
      obtain rfl := Option.some.inj hchange
      obtain ⟨value, hvalue, rfl⟩ := Traced.outcome_map_eq_ok_iff.mp h
      exact Inclusive.step_of_add hvalue
    | remove value =>
      obtain rfl := Option.some.inj hchange
      obtain ⟨value, hvalue, rfl⟩ := Traced.outcome_map_eq_ok_iff.mp h
      exact Inclusive.step_of_remove hvalue

/-- Every change is a step, also one that is refused or not offered. -/
theorem step_after (criterion : Criterion) (change : Change) :
    Step criterion (criterion.after change) := by
  rw [after]
  cases hchange : criterion.change? change with
  | none => exact .refl criterion
  | some computation =>
    rw [Option.map_some]
    cases houtcome : computation.outcome with
    | error fault => exact .refl criterion
    | ok changed => exact step_of_change? hchange houtcome

/-- A step keeps the definition. -/
theorem Step.definition_eq {before after : Criterion} (h : Step before after) :
    after.definition = before.definition := by
  cases h <;> rfl

/-! ## The invariant -/

/-- The values held are meant: an exclusive criterion holds `"0"` or an allowed value, an inclusive
one holds allowed values but never `"0"`. -/
def Valid : Criterion → Prop
  | .exclusive criterion =>
    criterion.current = noValue ∨ criterion.current ∈ criterion.definition.allowed
  | .inclusive criterion =>
    ∀ value ∈ criterion.held, value ≠ noValue ∧ value ∈ criterion.definition.allowed

/-- A fresh criterion has the definition that it is made from. -/
theorem definition_fresh (definition : Definition) : definition.fresh.definition = definition := by
  unfold Definition.fresh
  cases definition.kind <;> rfl

/-- A fresh criterion is valid. -/
theorem valid_fresh (definition : Definition) : definition.fresh.Valid := by
  unfold Definition.fresh
  cases definition.kind with
  | exclusive => exact .inl rfl
  | inclusive => exact fun _ hvalue => absurd hvalue Std.ExtTreeSet.not_mem_empty

/-- A step keeps a criterion valid. -/
theorem Valid.step {before after : Criterion} (hvalid : before.Valid) (h : Step before after) :
    after.Valid := by
  cases h with
  | exclusive hcurrent =>
    rcases hcurrent with rfl | hmeant
    · exact hvalid
    · exact hmeant
  | inclusive hheld =>
    intro value hvalue
    rcases hheld value hvalue with hbefore | hmeant
    · exact hvalid value hbefore
    · exact hmeant

/-- What every step keeps is kept by any number of changes. -/
theorem afterAll_induct {motive : Criterion → Prop}
    (hstep : ∀ before after, Step before after → motive before → motive after)
    {criterion : Criterion} (h : motive criterion) (changes : List Change) :
    motive (criterion.afterAll changes) := by
  induction changes generalizing criterion with
  | nil => exact h
  | cons change rest ih => exact ih (hstep _ _ (step_after criterion change) h)

/-- Any number of changes keep the definition. -/
theorem definition_afterAll (criterion : Criterion) (changes : List Change) :
    (criterion.afterAll changes).definition = criterion.definition :=
  afterAll_induct (motive := fun after => after.definition = criterion.definition)
    (fun _ _ hstep hbefore => hstep.definition_eq.trans hbefore) rfl changes

/-- Any number of changes keep a criterion valid. -/
theorem Valid.afterAll {criterion : Criterion} (h : criterion.Valid) (changes : List Change) :
    (criterion.afterAll changes).Valid :=
  afterAll_induct (fun _ _ hstep hbefore => hbefore.step hstep) h changes

/-- A criterion holds values in the way of its kind. -/
def Fits : Criterion → Prop
  | .exclusive criterion => criterion.definition.kind = .exclusive
  | .inclusive criterion => criterion.definition.kind = .inclusive

/-- A fresh criterion holds values in the way of its kind. -/
theorem fits_fresh (definition : Definition) : definition.fresh.Fits := by
  unfold Definition.fresh
  cases hkind : definition.kind with
  | exclusive => exact hkind
  | inclusive => exact hkind

/-- A step does not change how values are held. -/
theorem Fits.step {before after : Criterion} (hfits : before.Fits) (h : Step before after) :
    after.Fits := by
  cases h <;> exact hfits

end Criterion

namespace Definition

/-- A definition reaches the criteria that changes make of its fresh one. -/
def Reaches (definition : Definition) (criterion : Criterion) : Prop :=
  ∃ changes, criterion = definition.fresh.afterAll changes

/-- A criterion that is reached has the definition that reaches it. -/
theorem Reaches.definition_eq {definition : Definition} {criterion : Criterion}
    (h : definition.Reaches criterion) : criterion.definition = definition := by
  obtain ⟨changes, rfl⟩ := h
  rw [Criterion.definition_afterAll, Criterion.definition_fresh]

/-- A criterion that is reached is valid. -/
theorem Reaches.valid {definition : Definition} {criterion : Criterion}
    (h : definition.Reaches criterion) : criterion.Valid := by
  obtain ⟨changes, rfl⟩ := h
  exact (Criterion.valid_fresh definition).afterAll changes

/-- A criterion that is reached holds values in the way of its kind. -/
theorem Reaches.fits {definition : Definition} {criterion : Criterion}
    (h : definition.Reaches criterion) : criterion.Fits := by
  obtain ⟨changes, rfl⟩ := h
  exact Criterion.afterAll_induct (fun _ _ hstep hbefore => hbefore.step hstep)
    (Criterion.fits_fresh definition) changes

/-- A criterion that is reached holds one value if its definition is exclusive, and a set of values
if it is inclusive. -/
theorem Reaches.exclusive_or_inclusive {definition : Definition} {criterion : Criterion}
    (h : definition.Reaches criterion) :
    (∃ current, criterion = .exclusive ⟨definition, current⟩ ∧ definition.kind = .exclusive ∧
        (current = noValue ∨ current ∈ definition.allowed)) ∨
      ∃ held, criterion = .inclusive ⟨definition, held⟩ ∧ definition.kind = .inclusive ∧
        (Criterion.inclusive ⟨definition, held⟩).Valid := by
  have hvalid := h.valid
  have hfits := h.fits
  obtain rfl := h.definition_eq
  cases criterion with
  | exclusive state => exact .inl ⟨state.current, rfl, hfits, hvalid⟩
  | inclusive state => exact .inr ⟨state.held, rfl, hfits, hvalid⟩

end Definition

namespace Criterion

/-! ## What is shown -/

/-- An inclusive criterion that holds something shows what it holds in the order of declaration. -/
theorem values_of_not_isUnset {criterion : Inclusive} (h : ¬(inclusive criterion).isUnset) :
    (inclusive criterion).values =
      criterion.definition.allowed.filter fun value => value ∈ criterion.held := by
  have hheld : ¬criterion.held.isEmpty := h
  rw [values, if_neg hheld]
  refine List.filter_congr fun value _ => ?_
  rw [Bool.eq_iff_iff, Std.ExtTreeSet.contains_iff_mem, decide_eq_true_iff]

/-- A valid criterion shows at least one value. -/
theorem Valid.values_ne_nil {criterion : Criterion} (h : criterion.Valid) :
    criterion.values ≠ [] := by
  cases criterion with
  | exclusive criterion => exact List.cons_ne_nil _ _
  | inclusive criterion =>
    rw [values]
    split
    · exact List.cons_ne_nil _ _
    · next hheld =>
      rw [Std.ExtTreeSet.isEmpty_iff, Std.ExtTreeSet.eq_empty_iff_forall_not_mem,
        Classical.not_forall] at hheld
      obtain ⟨value, hvalue⟩ := hheld
      rw [Classical.not_not] at hvalue
      refine List.ne_nil_of_mem (List.mem_filter.mpr ⟨(h value hvalue).2, ?_⟩)
      exact Std.ExtTreeSet.contains_iff_mem.mpr hvalue

/-- A valid criterion shows `"0"` and allowed values only. -/
theorem Valid.of_mem_values {criterion : Criterion} (h : criterion.Valid) {value : String}
    (hvalue : value ∈ criterion.values) :
    value = noValue ∨ value ∈ criterion.definition.allowed := by
  cases criterion with
  | exclusive criterion =>
    obtain rfl := List.mem_singleton.mp hvalue
    exact h
  | inclusive criterion =>
    rw [values] at hvalue
    split at hvalue
    · exact .inl (List.mem_singleton.mp hvalue)
    · exact .inr (List.mem_filter.mp hvalue).1

end Criterion

end Criteria
