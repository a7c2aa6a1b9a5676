import Criteria.Proofs.InPlace

/-!
# What can be seen of a criterion

A criterion that changes have made of a fresh one shows what it holds: its values in the order of
their declaration, or `"0"` alone while nothing is set. Nothing is assumed about the values that the
definition allows. They may be listed twice, be empty or hold spaces, and `"0"` may be among them,
but an inclusive criterion never comes to hold it, so `"0"` is shown only if nothing else is.
-/

namespace Criteria.Criterion

/-- A valid inclusive criterion does not hold `"0"`. -/
theorem Valid.noValue_not_mem {criterion : Inclusive} (h : (inclusive criterion).Valid) :
    noValue ∉ criterion.held :=
  fun hzero => (h noValue hzero).1 rfl

/-- A valid inclusive criterion that holds something shows exactly what it holds. -/
theorem Valid.mem_values_iff {criterion : Inclusive} (hvalid : (inclusive criterion).Valid)
    (h : ¬(inclusive criterion).isUnset) {value : String} :
    value ∈ (inclusive criterion).values ↔ value ∈ criterion.held := by
  rw [values_of_not_isUnset h, List.mem_filter, decide_eq_true_iff]
  exact ⟨And.right, fun hheld => ⟨(hvalid value hheld).2, hheld⟩⟩

/-- A valid criterion is unset exactly when it shows `"0"` alone. -/
theorem Valid.isUnset_iff {criterion : Criterion} (hvalid : criterion.Valid) :
    criterion.isUnset = true ↔ criterion.values = [noValue] := by
  cases criterion with
  | exclusive criterion => simp [isUnset, values]
  | inclusive criterion =>
    refine ⟨fun h => if_pos h, fun h => Decidable.byContradiction fun hset => ?_⟩
    have hzero : noValue ∈ (inclusive criterion).values := h ▸ List.mem_singleton_self noValue
    exact hvalid.noValue_not_mem ((hvalid.mem_values_iff hset).mp hzero)

/-- A valid inclusive criterion is said to contain exactly the values that it shows. -/
theorem Valid.contains_iff {criterion : Inclusive} (hvalid : (inclusive criterion).Valid)
    (value : String) :
    criterion.contains value = true ↔ value ∈ (inclusive criterion).values := by
  by_cases hunset : (inclusive criterion).isUnset
  · have hempty : criterion.held = ∅ := Std.ExtTreeSet.isEmpty_iff.mp hunset
    rw [hvalid.isUnset_iff.mp hunset, List.mem_singleton, Inclusive.contains, hempty]
    split <;> simp_all
  · rw [hvalid.mem_values_iff hunset, Inclusive.contains]
    split
    · next hzero =>
      subst hzero
      exact iff_of_false hunset hvalid.noValue_not_mem
    · exact Std.ExtTreeSet.contains_iff_mem

/-- Whatever changes have made of a fresh criterion, and whether or not they were refused: an
exclusive criterion holds `"0"` or an allowed value; an inclusive one holds allowed values but never
`"0"`, is said to contain exactly the values that it shows, and shows those it holds in the order of
their declaration unless it is unset; some value is shown, and it is `"0"` alone exactly when the
criterion is unset. Changes made in place come to the same state, and one that is refused leaves the
criterion as it was. -/
theorem afterAll_fresh_consistent (definition : Definition) (changes : List Change) :
    let criterion := definition.fresh.afterAll changes
    criterion.definition = definition ∧
    (∀ state, criterion = .exclusive state → definition.kind = .exclusive ∧
      (state.current = noValue ∨ state.current ∈ definition.allowed)) ∧
    (∀ state, criterion = .inclusive state → definition.kind = .inclusive ∧
      (∀ value ∈ state.held, value ∈ definition.allowed) ∧ noValue ∉ state.held ∧
      (∀ value, state.contains value = true ↔ value ∈ criterion.values) ∧
      (¬criterion.isUnset →
        criterion.values = definition.allowed.filter fun value => value ∈ state.held)) ∧
    criterion.values ≠ [] ∧
    (criterion.isUnset = true ↔ criterion.values = [noValue]) ∧
    criterion = definition.fresh.changeAllInPlace changes ∧
    ∀ change,
      (criterion.changeInPlace? change = (criterion.change? change).map fun computation =>
        (computation.outcome.map fun _ => (), criterion.after change)) ∧
      ∀ fault left, criterion.changeInPlace? change = some (.error fault, left) →
        left = criterion := by
  intro criterion
  have hreaches : definition.Reaches criterion := ⟨changes, rfl⟩
  have hvalid := hreaches.valid
  have hfits := hreaches.fits
  have hdefinition := hreaches.definition_eq
  refine ⟨hdefinition, ?_, ?_, hvalid.values_ne_nil, hvalid.isUnset_iff,
    (changeAllInPlace_eq _ changes).symm,
    fun change => ⟨changeInPlace?_eq criterion change, fun _ _ => eq_of_changeInPlace?_error⟩⟩
  · intro state hstate
    rw [hstate] at hvalid hfits hdefinition
    obtain rfl : state.definition = definition := hdefinition
    exact ⟨hfits, hvalid⟩
  · intro state hstate
    rw [hstate] at hvalid hfits hdefinition ⊢
    obtain rfl : state.definition = definition := hdefinition
    exact ⟨hfits, fun value hvalue => (hvalid value hvalue).2, hvalid.noValue_not_mem,
      hvalid.contains_iff, values_of_not_isUnset⟩

example :
    ((Definition.fresh ⟨.inclusive, "Colors", ["a b", "0", "", "a b"]⟩).afterAll
      [.add "", .remove "0", .add "a b", .raw "a b"]).values = ["a b", "", "a b"] := by
  decide +kernel

end Criteria.Criterion
