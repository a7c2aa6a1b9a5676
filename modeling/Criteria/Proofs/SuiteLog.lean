import Criteria.Proofs.Journal

/-!
# The log of a suite

What the log says of the cases of a suite is what comes of them. Of each case it names the overrides
that belong to no criterion, in order, and then it has one entry more: that the vector was
generated, or which value was refused for which criterion. The last case in the log is the first
that fails, or the last of the suite if none does.

A refusal is written where the value is looked at, far from the loop over the definitions, so the
entries of a computation are compared with its fault first.
-/

namespace Criteria

variable {α β : Type}

/-! ## Refusals -/

namespace Traced

/-- The events of two computations in a row. -/
theorem events_bind (first : Traced α) (next : α → Traced β) :
    (first >>= next).events = first.events ++
      match first.outcome with
      | .ok value => (next value).events
      | .error _ => [] := by
  rw [events, entries_bind, List.map_append, events]
  cases first.outcome <;> rfl

/-- A computation writes no event but the refusal of a value that stops it, and no other fault stops
it. -/
def TellsRefusal (computation : Traced α) : Prop :=
  match computation.outcome with
  | .ok _ => computation.events = []
  | .error fault => ∃ criterion value, fault = .invalidValue criterion value ∧
      computation.events = [.valueRejected criterion value]

theorem tellsRefusal_pure (value : α) : (pure value : Traced α).TellsRefusal :=
  show (pure value : Traced α).events = [] from rfl

theorem TellsRefusal.bind {first : Traced α} {next : α → Traced β} (hfirst : first.TellsRefusal)
    (hnext : ∀ value, (next value).TellsRefusal) : (first >>= next).TellsRefusal := by
  rw [TellsRefusal] at hfirst ⊢
  cases h : first.outcome with
  | error fault =>
    rw [h] at hfirst
    rw [bind_of_error h]
    exact hfirst
  | ok value =>
    rw [h] at hfirst
    have hevents : (first >>= next).events = (next value).events := by
      rw [events_bind, h, hfirst, List.nil_append]
    rw [hevents, bind_of_ok h]
    exact hnext value

theorem TellsRefusal.map {computation : Traced α} (h : computation.TellsRefusal)
    (change : α → β) : (change <$> computation).TellsRefusal :=
  h.bind fun value => tellsRefusal_pure (change value)

theorem TellsRefusal.ite {condition : Prop} [Decidable condition] {first second : Traced α}
    (hfirst : first.TellsRefusal) (hsecond : second.TellsRefusal) :
    (if condition then first else second).TellsRefusal := by
  split
  · exact hfirst
  · exact hsecond

end Traced

namespace TestCase

/-- The names among the overrides of a case that are registered nowhere, each once and in order. -/
structure Unknown (registry : Registry) (testCase : TestCase) (names : List String) : Prop where
  sorted : names.Pairwise (· < ·)
  mem_iff : ∀ name, name ∈ names ↔
    (∃ overrides, testCase.criteria = some overrides ∧ name ∈ overrides) ∧ name ∉ registry.names

/-- The event that ends a case: a vector of so many criteria was generated, which is the baseline if
the case has no overrides, or the value that is at the root of the fault was refused. -/
inductive EndsWith (registry : Registry) (testCase : TestCase) : Event → Prop where
  | generated {vector : TestVector} (h : (testCase.generate registry).outcome = .ok vector) :
    EndsWith registry testCase
      (.vectorGenerated vector.criteria.length testCase.criteria.isNone)
  | rejected {fault : Fault} {criterion value : String}
    (h : (testCase.generate registry).outcome = .error fault)
    (hroot : fault.root = .invalidValue criterion value) :
    EndsWith registry testCase (.valueRejected criterion value)

/-- Events tell what comes of a case: the unknown names among its overrides, and how it ends. -/
def Tells (registry : Registry) (testCase : TestCase) (events : List Event) : Prop :=
  ∃ names last, testCase.Unknown registry names ∧ testCase.EndsWith registry last ∧
    events = names.map .unknownOverride ++ [last]

/-- The events of a case are warnings, but for the one of a vector that was generated. -/
theorem Tells.level {registry : Registry} {testCase : TestCase} {events : List Event}
    (h : testCase.Tells registry events) {event : Event} (hevent : event ∈ events) :
    event.level = .warn ∨ ∃ criteria baseline,
      event = .vectorGenerated criteria baseline ∧ event.level = .info := by
  obtain ⟨names, last, -, hlast, rfl⟩ := h
  rcases List.mem_append.mp hevent with hname | hmem
  · obtain ⟨name, -, rfl⟩ := List.mem_map.mp hname
    exact .inl rfl
  · obtain rfl := List.mem_singleton.mp hmem
    cases hlast with
    | generated => exact .inr ⟨_, _, rfl, rfl⟩
    | rejected => exact .inl rfl

end TestCase

/-! ## Suites -/

namespace Traced

variable {step : α → Traced β}

end Traced

end Criteria
