import Criteria.Proofs.States

/-!
# Changes in place

A criterion may also be kept in a cell that a call writes to while it runs. What a call has written
when it is refused stays in the cell, so a refusal need not leave the criterion as it was: removing
a value finds out that the value was not held only after it has been taken out, and words are put in
one at a time. Each call is given here with all its writes. It replies as the change does, and it
leaves the state after the change.
-/

namespace Criteria

/-- What runs on a state that it writes to, and may be refused on the way. -/
abbrev Cell (σ : Type) := EStateM Fault σ

namespace Cell

variable {σ : Type}

/-- A call makes a change if it leaves the changed state, or is refused for the same fault and
leaves the state as it was. -/
def Makes (call : Cell σ Unit) (change : σ → Traced σ) : Prop :=
  ∀ state, call.run state = match (change state).outcome with
    | .ok changed => .ok () changed
    | .error fault => .error fault state

/-- Run a call on what a criterion is made of: the reply, and the criterion that is left. -/
def leave (call : Cell σ Unit) (state : σ) (whole : σ → Criterion) :
    Except Fault Unit × Criterion :=
  match call.run state with
  | .ok () left => (.ok (), whole left)
  | .error fault left => (.error fault, whole left)

end Cell

/-! ## The calls -/

namespace Exclusive

/-- Write another value, or refuse it. -/
def setInPlace (value : String) : Cell Exclusive Unit := do
  let criterion ← get
  if value ≠ noValue ∧ ¬criterion.definition.allows value then
    throw (.invalidValue criterion.definition.name value)
  modify fun criterion => { criterion with current := value }

/-- Write the value that a text gives, or refuse it. -/
def applyRawInPlace (raw : String) : Cell Exclusive Unit := setInPlace (Text.trim raw)

/-- Writing a value in place is setting it. -/
theorem makes_setInPlace (value : String) :
    (setInPlace value).Makes fun criterion => criterion.set value := by
  intro criterion
  simp only [outcome_set, setInPlace, EStateM.run_bind, EStateM.run_get]
  by_cases hvalue : value = noValue ∨ criterion.definition.allows value
  · rw [if_pos hvalue, if_neg fun hrefused => hvalue.elim hrefused.1 hrefused.2]
    rfl
  · rw [if_neg hvalue, if_pos (not_or.mp hvalue)]
    rfl

end Exclusive

namespace Inclusive

/-- Empty the set, or put one more value into it. -/
def addInPlace (value : String) : Cell Inclusive Unit := do
  if value = noValue then
    modify reset
    return
  let criterion ← get
  if ¬criterion.definition.allows value then
    throw (.invalidValue criterion.definition.name value)
  modify fun criterion => { criterion with held := criterion.held.insert value }

/-- Take a value out of the set, and refuse the call if the value was not in it. -/
def removeInPlace (value : String) : Cell Inclusive Unit := do
  let criterion ← get
  if value = noValue ∧ criterion.held.isEmpty then
    return
  modify fun criterion => { criterion with held := criterion.held.erase value }
  if ¬criterion.held.contains value then
    throw (.notSet criterion.definition.name value)

/-- Put words into the set, one at a time. -/
def holdInPlace : List String → Cell Inclusive Unit
  | [] => return
  | word :: rest => do
    modify fun criterion => { criterion with held := criterion.held.insert word }
    holdInPlace rest

/-- Empty the set, or look all words of a text over and then put them into it. -/
def applyRawInPlace (raw : String) : Cell Inclusive Unit := do
  let criterion ← get
  let words := Text.words raw
  if words.isEmpty then
    throw (.invalidValue criterion.definition.name raw)
  if words.contains noValue then
    modify reset
    return
  match words.find? fun word => !criterion.definition.allows word with
  | some word => throw (.invalidValue criterion.definition.name word)
  | none => holdInPlace words

/-- Putting a value in place into the set is adding it. -/
theorem makes_addInPlace (value : String) :
    (addInPlace value).Makes fun criterion => criterion.add value := by
  intro criterion
  simp only [outcome_add, addInPlace]
  by_cases hzero : value = noValue
  · rw [if_pos hzero, if_pos hzero]
    rfl
  · rw [if_neg hzero, if_neg hzero]
    simp only [EStateM.run_bind, EStateM.run_get]
    by_cases hallowed : criterion.definition.allows value
    · rw [if_pos hallowed, if_neg (not_not_intro hallowed)]
      rfl
    · rw [if_neg hallowed, if_pos hallowed]
      rfl

/-- A set that does not hold a value is the same without it. -/
theorem erase_eq_of_not_contains {held : Std.ExtTreeSet String} {value : String}
    (h : ¬held.contains value) : held.erase value = held := by
  rw [Std.ExtTreeSet.contains_iff_mem] at h
  apply Std.ExtTreeSet.ext_mem
  intro other
  rw [Std.ExtTreeSet.mem_erase]
  refine ⟨And.right, fun hother => ⟨fun heq => h ?_, hother⟩⟩
  rwa [Std.LawfulEqCmp.eq_of_compare heq]

/-- Taking a value in place out of the set is removing it: if it was not held, nothing was taken. -/
theorem makes_removeInPlace (value : String) :
    (removeInPlace value).Makes fun criterion => criterion.remove value := by
  intro criterion
  simp only [outcome_remove, removeInPlace, EStateM.run_bind, EStateM.run_get]
  by_cases hzero : value = noValue ∧ criterion.held.isEmpty
  · rw [if_pos hzero, if_pos hzero]
    rfl
  · rw [if_neg hzero, if_neg hzero]
    simp only [EStateM.run_bind, EStateM.run_modify]
    by_cases hheld : criterion.held.contains value
    · rw [if_pos hheld, if_neg (not_not_intro hheld)]
      rfl
    · rw [if_neg hheld, if_pos hheld, erase_eq_of_not_contains hheld]
      rfl

/-- Words that are put into the set one at a time are all held, with those held before. -/
theorem run_holdInPlace (words : List String) (criterion : Inclusive) :
    (holdInPlace words).run criterion =
      .ok () { criterion with held := criterion.held.insertMany words } := by
  induction words generalizing criterion with
  | nil => rfl
  | cons word rest ih =>
    rw [holdInPlace, EStateM.run_bind, EStateM.run_modify, Std.ExtTreeSet.insertMany_cons]
    exact ih _

/-- Putting the words of a text in place into the set is changing it as the text says: no word is
put in before all were looked over. -/
theorem makes_applyRawInPlace (raw : String) :
    (applyRawInPlace raw).Makes fun criterion => criterion.applyRaw raw := by
  intro criterion
  simp only [outcome_applyRaw, applyRawInPlace, EStateM.run_bind, EStateM.run_get]
  by_cases hnone : (Text.words raw).isEmpty
  · rw [if_pos hnone, if_pos hnone]
    rfl
  · rw [if_neg hnone, if_neg hnone]
    by_cases hzero : (Text.words raw).contains noValue
    · rw [if_pos hzero, if_pos hzero]
      rfl
    · rw [if_neg hzero, if_neg hzero]
      cases (Text.words raw).find? fun word => !criterion.definition.allows word with
      | some word => rfl
      | none => exact run_holdInPlace _ criterion

end Inclusive

/-! ## Any change -/

/-- A call that makes a change of a part makes the change of the criterion that has the part. -/
theorem Cell.Makes.leave_eq {σ : Type} {call : Cell σ Unit} {part : σ → Traced σ}
    (h : call.Makes part) {state : σ} {whole : σ → Criterion} {change : Criterion.Change}
    (hoffered : (whole state).change? change = some (whole <$> part state)) :
    some (call.leave state whole) = ((whole state).change? change).map fun computation =>
      (computation.outcome.map fun _ => (), (whole state).after change) := by
  rw [Criterion.after, hoffered, Option.map_some, Option.map_some, Traced.outcome_map, leave,
    h state]
  cases (part state).outcome <;> rfl

/-- Writing a state makes the change to that state. -/
theorem Cell.makes_modify {σ : Type} (next : σ → σ) :
    Cell.Makes (modify next) fun state => pure (next state) :=
  fun _ => rfl

namespace Criterion

/-- Make a change in place, if the kind of the criterion offers it: the reply, and what is left. -/
def changeInPlace? (criterion : Criterion) (change : Change) :
    Option (Except Fault Unit × Criterion) :=
  match change, criterion with
  | .raw text, .exclusive criterion =>
    some ((Exclusive.applyRawInPlace text).leave criterion .exclusive)
  | .raw text, .inclusive criterion =>
    some ((Inclusive.applyRawInPlace text).leave criterion .inclusive)
  | .reset, .exclusive criterion => some (Cell.leave (modify Exclusive.reset) criterion .exclusive)
  | .reset, .inclusive criterion => some (Cell.leave (modify Inclusive.reset) criterion .inclusive)
  | .set value, .exclusive criterion =>
    some ((Exclusive.setInPlace value).leave criterion .exclusive)
  | .add value, .inclusive criterion =>
    some ((Inclusive.addInPlace value).leave criterion .inclusive)
  | .remove value, .inclusive criterion =>
    some ((Inclusive.removeInPlace value).leave criterion .inclusive)
  | _, _ => none

/-- Make some changes in place, in order, whether or not they are refused. -/
def changeAllInPlace (criterion : Criterion) (changes : List Change) : Criterion :=
  changes.foldl
    (fun criterion change => ((criterion.changeInPlace? change).map Prod.snd).getD criterion)
    criterion

/-- A change in place is offered when the change is, replies as it does, and leaves the state after
the change. -/
theorem changeInPlace?_eq (criterion : Criterion) (change : Change) :
    criterion.changeInPlace? change = (criterion.change? change).map fun computation =>
      (computation.outcome.map fun _ => (), criterion.after change) := by
  cases criterion with
  | exclusive criterion =>
    cases change with
    | raw text => exact (Exclusive.makes_setInPlace (Text.trim text)).leave_eq rfl
    | reset => exact (Cell.makes_modify Exclusive.reset).leave_eq rfl
    | set value => exact (Exclusive.makes_setInPlace value).leave_eq rfl
    | add value => rfl
    | remove value => rfl
  | inclusive criterion =>
    cases change with
    | raw text => exact (Inclusive.makes_applyRawInPlace text).leave_eq rfl
    | reset => exact (Cell.makes_modify Inclusive.reset).leave_eq rfl
    | set value => rfl
    | add value => exact (Inclusive.makes_addInPlace value).leave_eq rfl
    | remove value => exact (Inclusive.makes_removeInPlace value).leave_eq rfl

/-- A change in place that is refused leaves the criterion as it was. -/
theorem eq_of_changeInPlace?_error {criterion left : Criterion} {change : Change} {fault : Fault}
    (h : criterion.changeInPlace? change = some (.error fault, left)) : left = criterion := by
  rw [changeInPlace?_eq] at h
  obtain ⟨computation, hchange, hreply⟩ := Option.map_eq_some_iff.mp h
  obtain ⟨houtcome, rfl⟩ := Prod.mk.inj hreply
  rw [after, hchange, Option.map_some]
  cases hcomputation : computation.outcome with
  | error other => rfl
  | ok changed =>
    rw [hcomputation] at houtcome
    contradiction

/-- Changes in place leave the state after the changes. -/
theorem changeAllInPlace_eq (criterion : Criterion) (changes : List Change) :
    criterion.changeAllInPlace changes = criterion.afterAll changes := by
  induction changes generalizing criterion with
  | nil => rfl
  | cons change rest ih =>
    have hleft : ((criterion.changeInPlace? change).map Prod.snd).getD criterion =
        criterion.after change := by
      rw [changeInPlace?_eq, after]
      cases criterion.change? change <;> rfl
    rw [changeAllInPlace, List.foldl_cons, hleft]
    exact ih (criterion.after change)

end Criterion

end Criteria
